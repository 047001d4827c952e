import BusMaster.Json.Decode
import BusMaster.Proofs.Address.Grammar
import Mathlib.Data.List.TakeWhile

/-!
# Spellings of an address

An address has many texts: its digits in either case, with marks anywhere between them.
All of them are read as the address, in JSON and in lists as well.

* `Text.hexValue?_congr`: the value of a digit is that of its other case;
* `Text.trim_append`, `Text.Trims`: the blanks around a text, taken off;
* `Address.Respelled`: a text with the case of its letters changed and marks put in;
* `Address.parse_of_respelled`: it spells the same address;
* `Address.SpelledOut`, `Address.SpelledOut.spells`: lists of such texts;
* `Address.parseList_of_first_bad`: the piece that the error of a list names;
* `Address.spellings_survive`: all together.
-/

namespace BusMaster

namespace Text

/-! ## The case of a digit -/

theorem toLower_of_not_ascii {c : Char} (hc : 128 ≤ c.toNat) : c.toLower = c := by
  unfold Char.toLower
  rw [dif_neg]
  rintro ⟨-, hle⟩
  have : c.toNat ≤ 'Z'.toNat := hle
  simp at this
  omega

theorem hexValue?_toLower (c : Char) : hexValue? c.toLower = hexValue? c := by
  rcases Nat.lt_or_ge c.toNat 128 with hc | hc
  · refine forall_ascii (P := fun c => hexValue? c.toLower = hexValue? c) ?_ hc
    decide +kernel
  · rw [toLower_of_not_ascii hc]

/-- A letter has the same value in both cases. -/
theorem hexValue?_congr {c d : Char} (h : c.toLower = d.toLower) : hexValue? c = hexValue? d := by
  rw [← hexValue?_toLower c, h, hexValue?_toLower]

theorem hexValue?_hexDigit : ∀ value < 16, hexValue? (hexDigit value) = some value := by
  decide +kernel

/-- A property of the digits, shown for each code. -/
theorem forall_hexValue? {P : Char → Prop}
    (hall : ∀ n < 128, hexValue? (Char.ofNat n) ≠ none → P (Char.ofNat n)) {c : Char}
    {value : Nat} (h : hexValue? c = some value) : P c :=
  forall_ascii (P := fun c => hexValue? c ≠ none → P c) hall (ascii_of_hexValue? h) (by simp [h])

/-- A digit is neither a blank nor a comma nor a mark. -/
theorem plain_of_hexValue? {c : Char} {value : Nat} (h : hexValue? c = some value) :
    isBlank c = false ∧ Address.isSeparator c = false ∧ c ≠ ',' :=
  forall_hexValue? (P := fun c => isBlank c = false ∧ Address.isSeparator c = false ∧ c ≠ ',')
    (by decide +kernel) h

/-! ## Trimming -/

theorem trimStart_append {left cs : List Char} (h : ∀ c ∈ left, isBlank c = true) :
    trimStart (left ++ cs) = trimStart cs :=
  List.dropWhile_append_of_pos h

theorem trimStart_of_blank {cs : List Char} (h : ∀ c ∈ cs, isBlank c = true) :
    trimStart cs = [] := by
  rw [← List.append_nil cs, trimStart_append h]
  rfl

/-- Blanks around a text do not count. -/
theorem trim_append {left cs right : List Char} (hleft : ∀ c ∈ left, isBlank c = true)
    (hright : ∀ c ∈ right, isBlank c = true) : trim (left ++ cs ++ right) = trim cs := by
  have hback : ∀ c ∈ right.reverse, isBlank c = true :=
    fun c hc => hright c (List.mem_reverse.mp hc)
  have hmiddle : trimStart (cs ++ right) =
      if (trimStart cs).isEmpty then trimStart right else trimStart cs ++ right :=
    List.dropWhile_append
  rw [trim, trim, List.append_assoc, trimStart_append hleft, hmiddle]
  cases trimStart cs with
  | nil =>
    rw [List.isEmpty_nil, if_pos rfl, trimStart_of_blank hright]
  | cons c rest =>
    rw [List.isEmpty_cons, if_neg Bool.false_ne_true, List.reverse_append, trimStart_append hback]

/-- What a text loses at its end are blanks. -/
theorem trimStart_eq_append (cs : List Char) :
    ∃ right, trimStart cs = trim cs ++ right ∧ ∀ c ∈ right, isBlank c = true := by
  refine ⟨((trimStart cs).reverse.takeWhile isBlank).reverse, ?_,
    fun c hc => List.mem_takeWhile_imp (List.mem_reverse.mp hc)⟩
  rw [trim, ← List.reverse_append]
  show _ = ((trimStart cs).reverse.takeWhile isBlank ++
    (trimStart cs).reverse.dropWhile isBlank).reverse
  rw [List.takeWhile_append_dropWhile, List.reverse_reverse]

theorem not_isBlank_of_head? (cs : List Char) {c : Char} (h : c ∈ (trimStart cs).head?) :
    isBlank c = false := by
  have hhead := List.head?_dropWhile_not isBlank cs
  rw [← trimStart, h] at hhead
  exact hhead

/-- `core` is what is left of the text without the blanks around it. -/
def Trims (cs core : List Char) : Prop :=
  (∃ left right, cs = left ++ core ++ right ∧ (∀ c ∈ left, isBlank c = true) ∧
    ∀ c ∈ right, isBlank c = true) ∧
  (∀ c ∈ core.head?, isBlank c = false) ∧ ∀ c ∈ core.getLast?, isBlank c = false

theorem trims_trim (cs : List Char) : Trims cs (trim cs) := by
  obtain ⟨right, hstart, hright⟩ := trimStart_eq_append cs
  refine ⟨⟨cs.takeWhile isBlank, right, ?_, fun c hc => List.mem_takeWhile_imp hc, hright⟩,
    fun c hc => ?_, fun c hc => ?_⟩
  · rw [List.append_assoc, ← hstart]
    exact List.takeWhile_append_dropWhile.symm
  · refine not_isBlank_of_head? cs ?_
    rw [hstart, List.head?_append, Option.mem_def.mp hc]
    rfl
  · rw [trim, List.getLast?_reverse] at hc
    exact not_isBlank_of_head? _ hc

theorem trim_of_trims {cs core : List Char} (h : Trims cs core) : trim cs = core := by
  obtain ⟨⟨left, right, rfl, hleft, hright⟩, hhead, hlast⟩ := h
  have hstart : ∀ xs : List Char, (∀ c ∈ xs.head?, isBlank c = false) → trimStart xs = xs := by
    intro xs hxs
    cases xs with
    | nil => rfl
    | cons c rest => exact List.dropWhile_cons_of_neg (by simp [hxs c rfl])
  rw [trim_append hleft hright, trim, hstart core hhead, hstart _ (by rwa [List.head?_reverse]),
    List.reverse_reverse]

end Text

namespace Address

open Text

variable {a : Address} {addresses : List Address}

/-! ## One address -/

/-- The second text is the first with the case of its letters changed and marks put in. -/
inductive Respelled : List Char → List Char → Prop
  | nil : Respelled [] []
  | letter {c d : Char} {ds cs : List Char} (h : c.toLower = d.toLower) (rest : Respelled ds cs) :
    Respelled (d :: ds) (c :: cs)
  | mark {c : Char} {ds cs : List Char} (h : isSeparator c = true) (rest : Respelled ds cs) :
    Respelled ds (c :: cs)

/-- Whether a text is a respelling shows when the marks are left out and the case is
ignored. -/
theorem respelled_of_unmarked {ds cs : List Char}
    (h : (cs.filter (!isSeparator ·)).map Char.toLower = ds.map Char.toLower) :
    Respelled ds cs := by
  induction cs generalizing ds with
  | nil =>
    obtain rfl := List.map_eq_nil_iff.mp h.symm
    exact .nil
  | cons c cs ih =>
    by_cases hmark : isSeparator c = true
    · rw [List.filter_cons_of_neg (by simp [hmark])] at h
      exact .mark hmark (ih h)
    · rw [List.filter_cons_of_pos (by simp [hmark])] at h
      cases ds with
      | nil => cases h
      | cons d ds =>
        obtain ⟨hletter, hrest⟩ := List.cons.inj h
        exact .letter hletter (ih hrest)

/-- Every character is a digit or a mark. -/
theorem Respelled.digit_or_mark {ds cs : List Char} (h : Respelled ds cs)
    (hds : ∀ d ∈ ds, ∃ value, hexValue? d = some value) :
    ∀ c ∈ cs, (∃ value, hexValue? c = some value) ∨ isSeparator c = true := by
  induction h with
  | nil => simp
  | letter hletter _ ih =>
    rw [List.forall_mem_cons] at hds ⊢
    exact ⟨.inl (hexValue?_congr hletter ▸ hds.1), ih hds.2⟩
  | mark hmark _ ih =>
    rw [List.forall_mem_cons]
    exact ⟨.inr hmark, ih hds⟩

/-- Without the marks the letters are left. -/
theorem Respelled.unmarked {ds cs : List Char} (h : Respelled ds cs)
    (hds : ∀ d ∈ ds, ∃ value, hexValue? d = some value) :
    List.Forall₂ (fun d c => hexValue? c = hexValue? d) ds (cs.filter (!isSeparator ·)) := by
  induction h with
  | nil => exact .nil
  | @letter c d ds cs hletter _ ih =>
    rw [List.forall_mem_cons] at hds
    obtain ⟨value, hvalue⟩ := hds.1
    rw [← hexValue?_congr hletter] at hvalue
    rw [List.filter_cons_of_pos (by simp [(plain_of_hexValue? hvalue).2.1])]
    exact .cons (hexValue?_congr hletter) (ih hds.2)
  | mark hmark _ ih =>
    rw [List.filter_cons_of_neg (by simp [hmark])]
    exact ih hds

theorem hexValue?_of_mem_digits : ∀ d ∈ a.digits, ∃ value, hexValue? d = some value := by
  intro d hd
  obtain ⟨value, hlt, rfl⟩ := mem_hexBytes hd
  exact ⟨value, hexValue?_hexDigit value hlt⟩

/-- Characters worth as much as the digits of a byte are a numeral of it. -/
theorem signedWorth_of_hexByte {high low : Char} {byte : UInt8}
    (hhigh : hexValue? high = hexValue? (hexDigit (byte.toNat / 16)))
    (hlow : hexValue? low = hexValue? (hexDigit (byte.toNat % 16))) :
    signedWorth high low = some byte.toNat := by
  have hbyte := byte.toNat_lt
  rw [hexValue?_hexDigit _ (by omega)] at hhigh hlow
  have hworth : digitsWorth high low = some byte.toNat :=
    digitsWorth_eq_some_iff.mpr ⟨_, _, hhigh, hlow, by omega⟩
  rw [signedWorth_of_ne (ne_plus_of_digitsWorth hworth).1, hworth]

theorem pairsBy_of_hexBytes {bytes : List UInt8} {cs : List Char}
    (h : List.Forall₂ (fun d c => hexValue? c = hexValue? d) (hexBytes bytes) cs) :
    PairsBy signedWorth cs bytes := by
  rw [← readBytes_eq_some_iff]
  induction bytes generalizing cs with
  | nil =>
    cases h
    rfl
  | cons byte bytes ih =>
    cases h with
    | cons hhigh h =>
      cases h with
      | cons hlow h => exact readBytes_cons_eq_some_iff.mpr ⟨signedWorth_of_hexByte hhigh hlow, ih h⟩

/-- A text of these characters, marks apart, spells the address. -/
theorem parse_of_unmarked {cs : List Char}
    (h : List.Forall₂ (fun d c => hexValue? c = hexValue? d) a.digits
      (cs.filter (!isSeparator ·))) : parse (.ofList cs) = .ok a := by
  rw [parse_eq_ok_iff, Address.unmarked, String.toList_ofList]
  exact pairsBy_of_hexBytes h

theorem parse_of_respelled {cs : List Char} (h : Respelled a.digits cs) :
    parse (.ofList cs) = .ok a :=
  parse_of_unmarked (h.unmarked hexValue?_of_mem_digits)

/-- Blanks around a spelling can be taken off, its own among them. -/
theorem parse_trim {cs : List Char} (h : Respelled a.digits cs) :
    parse (.ofList (trim cs)) = .ok a := by
  obtain ⟨⟨left, right, hcs, hleft, hright⟩, -⟩ := trims_trim cs
  -- The only blank that a spelling has in it is a mark as well.
  have hmark : ∀ c ∈ cs, isBlank c = true → isSeparator c = true := by
    intro c hc hblank
    rcases h.digit_or_mark hexValue?_of_mem_digits c hc with ⟨value, hvalue⟩ | hmark
    · rw [(plain_of_hexValue? hvalue).1] at hblank
      cases hblank
    · exact hmark
  have hnone : ∀ blanks : List Char, (∀ c ∈ blanks, c ∈ cs ∧ isBlank c = true) →
      blanks.filter (!isSeparator ·) = [] := by
    intro blanks hblanks
    refine List.filter_eq_nil_iff.mpr fun c hc => ?_
    obtain ⟨hmem, hblank⟩ := hblanks c hc
    simp [hmark c hmem hblank]
  have hsame : (trim cs).filter (!isSeparator ·) = cs.filter (!isSeparator ·) := by
    have hl := hnone left fun c hc => ⟨by rw [hcs]; simp [hc], hleft c hc⟩
    have hr := hnone right fun c hc => ⟨by rw [hcs]; simp [hc], hright c hc⟩
    conv_rhs => rw [hcs]
    rw [List.filter_append, List.filter_append, hl, hr, List.nil_append, List.append_nil]
  refine parse_of_unmarked ?_
  rw [hsame]
  exact h.unmarked hexValue?_of_mem_digits

/-! ## Lists -/

/-- The pieces are texts of these addresses, one after the other, with blanks around them.
Anywhere between them there may be blank pieces. -/
inductive SpelledOut : List Address → List String → Prop
  | nil : SpelledOut [] []
  | blank {addresses : List Address} {ps : List String} {piece : String}
    (h : ∀ c ∈ piece.toList, isBlank c = true) (rest : SpelledOut addresses ps) :
    SpelledOut addresses (piece :: ps)
  | address {a : Address} {addresses : List Address} {ps : List String}
    (left text right : String) (hleft : ∀ c ∈ left.toList, isBlank c = true)
    (hright : ∀ c ∈ right.toList, isBlank c = true)
    (h : Respelled a.toText.toList text.toList) (rest : SpelledOut addresses ps) :
    SpelledOut (a :: addresses) ((left ++ text ++ right) :: ps)

/-- The pieces of a list are what stands between its commas. -/
theorem pieces_intercalate {ps : List String} (h : ∀ p ∈ ps, ',' ∉ p.toList) :
    pieces (",".intercalate ps) =
      ((ps.map fun p => trim p.toList).filter (!·.isEmpty)).map .ofList := by
  cases ps with
  | nil => decide
  | cons p ps =>
    have hcomma : ∀ l ∈ (p :: ps).map String.toList, ',' ∉ l := by
      intro l hl
      obtain ⟨q, hq, rfl⟩ := List.mem_map.mp hl
      exact h q hq
    have htext : (",".intercalate (p :: ps)).toList =
        [','].intercalate ((p :: ps).map String.toList) :=
      String.toList_intercalate
    rw [pieces, htext, List.splitOn_intercalate _ hcomma (by simp), List.map_map]
    rfl

theorem isBlank_comma : isBlank ',' = false := by
  decide

theorem SpelledOut.no_comma {ps : List String} (h : SpelledOut addresses ps) :
    ∀ p ∈ ps, ',' ∉ p.toList := by
  have hblanks : ∀ cs : List Char, (∀ c ∈ cs, isBlank c = true) → ',' ∉ cs := by
    intro cs hcs hmem
    have := hcs ',' hmem
    rw [isBlank_comma] at this
    cases this
  induction h with
  | nil => simp
  | blank hblank _ ih => exact List.forall_mem_cons.mpr ⟨hblanks _ hblank, ih⟩
  | address _ _ _ hleft hright hspelled _ ih =>
    refine List.forall_mem_cons.mpr ⟨?_, ih⟩
    rw [toText, String.toList_ofList] at hspelled
    simp only [String.toList_append, List.mem_append, not_or]
    refine ⟨⟨hblanks _ hleft, fun hmem => ?_⟩, hblanks _ hright⟩
    rcases hspelled.digit_or_mark hexValue?_of_mem_digits _ hmem with ⟨value, hvalue⟩ | hmark
    · exact (plain_of_hexValue? hvalue).2.2 rfl
    · exact absurd hmark (by decide)

/-- By induction on the pieces. -/
theorem SpelledOut.spells {ps : List String} (h : SpelledOut addresses ps) :
    Spells (",".intercalate ps) addresses := by
  rw [Spells, pieces_intercalate h.no_comma]
  induction h with
  | nil => rfl
  | @blank _ _ piece hblank _ ih =>
    have hempty : trim piece.toList = [] := by
      rw [trim, trimStart_of_blank hblank]
      rfl
    rw [List.map_cons, hempty, List.filter_cons_of_neg (by simp)]
    exact ih
  | @address a _ _ left text right hleft hright hspelled _ ih =>
    rw [toText, String.toList_ofList] at hspelled
    have hparse := parse_trim hspelled
    have hfull : trim text.toList ≠ [] := by
      intro hempty
      rw [hempty] at hparse
      cases hparse
    rw [List.map_cons, String.toList_append, String.toList_append, trim_append hleft hright,
      List.filter_cons_of_pos (by simp [hfull]), List.map_cons, List.map_cons, hparse, ih,
      List.map_cons]

/-! ## Bad pieces -/

/-- Without the blanks around it the piece is `core`, and that is neither empty nor an
address. -/
def IsBad (piece core : String) : Prop :=
  Trims piece.toList core.toList ∧ core ≠ "" ∧ ∀ a, parse core ≠ .ok a

theorem isMalformed_of_isBad {piece core : String} (h : IsBad piece core) :
    isMalformed core = true := by
  by_contra hgood
  obtain ⟨a, ha⟩ := exists_parse (Bool.of_not_eq_true hgood)
  exact h.2.2 a ha

/-- Pieces none of which is bad hold no malformed text. -/
theorem find?_isMalformed_of_not_isBad {ps : List String}
    (h : ∀ p ∈ ps, ∀ core, ¬ IsBad p core) :
    (((ps.map fun p => trim p.toList).filter (!·.isEmpty)).map String.ofList).find? isMalformed =
      none := by
  refine List.find?_eq_none.mpr fun q hq hmalformed => ?_
  obtain ⟨cs, hcs, rfl⟩ := List.mem_map.mp hq
  obtain ⟨hmem, hsome⟩ := List.mem_filter.mp hcs
  obtain ⟨p, hp, rfl⟩ := List.mem_map.mp hmem
  refine h p hp (.ofList (trim p.toList)) ⟨?_, ?_, fun a ha => ?_⟩
  · rw [String.toList_ofList]
    exact trims_trim p.toList
  · intro hempty
    rw [String.ofList_eq_empty_iff.mp hempty] at hsome
    cases hsome
  · rw [isMalformed, ha] at hmalformed
    cases hmalformed

/-- The error of a list names its first bad piece, without the blanks around it. -/
theorem parseList_of_first_bad {before after : List String} {piece core : String}
    (hcomma : ∀ p ∈ before ++ piece :: after, ',' ∉ p.toList)
    (hbefore : ∀ p ∈ before, ∀ core, ¬ IsBad p core) (hbad : IsBad piece core) :
    parseList (",".intercalate (before ++ piece :: after)) = .error (.invalidAddress core) := by
  have hcore : core.toList ≠ [] := fun h => hbad.2.1 (String.toList_eq_nil_iff.mp h)
  refine parseList_of_malformed ?_
  rw [pieces_intercalate hcomma, List.map_append, List.filter_append, List.map_append,
    List.find?_append, find?_isMalformed_of_not_isBad hbefore, Option.none_or, List.map_cons,
    trim_of_trims hbad.1, List.filter_cons_of_pos (by simp [hcore]), List.map_cons,
    String.ofList_toList, List.find?_cons_of_pos (isMalformed_of_isBad hbad)]

/-- An address is read back from each of its spellings, by itself and as a JSON string, and
from the JSON value that it is written as. A list of spellings is read as the addresses one
after the other. If a piece of a list is neither blank nor an address, the error names the
first such piece without the blanks around it. -/
theorem spellings_survive :
    (∀ (a : Address) (text : String), Respelled a.toText.toList text.toList →
      parse text = .ok a ∧ Json.readAddress (.string text) = .ok a) ∧
    (∀ a : Address, Json.readAddress (Json.ofAddress a) = .ok a) ∧
    (∀ (addresses : List Address) (ps : List String), SpelledOut addresses ps →
      parseList (",".intercalate ps) = .ok addresses) ∧
    (∀ (before after : List String) (piece core : String),
      (∀ p ∈ before ++ piece :: after, ',' ∉ p.toList) →
      (∀ p ∈ before, ∀ core, ¬ IsBad p core) → IsBad piece core →
      parseList (",".intercalate (before ++ piece :: after)) = .error (.invalidAddress core)) := by
  have hparse : ∀ (a : Address) (text : String), Respelled a.toText.toList text.toList →
      parse text = .ok a := by
    intro a text h
    rw [toText, String.toList_ofList] at h
    rw [← String.ofList_toList (s := text)]
    exact parse_of_respelled h
  refine ⟨fun a text h => ⟨hparse a text h, ?_⟩, fun a => ?_,
    fun addresses ps h => parseList_of_spells h.spells, fun before after piece core => ?_⟩
  · rw [Json.readAddress, hparse a text h]
    rfl
  · rw [Json.ofAddress, Json.readAddress, parse_toText]
    rfl
  · exact parseList_of_first_bad

/-- Two spellings of one address, with a blank piece between them and an ideographic space
and a line feed around one of them; and a list with two bad pieces. -/
theorem spellings_survive_of_two :
    let a : Address := .ofBytes [0x28, 0xFF, 0x4C, 0x60, 0x91, 0x16, 0x04, 0x8E]
    let marked := "28:ff-4C 609116048e "
    let list := ["\u3000" ++ marked ++ "\n", "\t", "28FF4C609116048E"]
    Respelled a.toText.toList marked.toList ∧ parse marked = .ok a ∧
      SpelledOut [a, a] list ∧ parseList (",".intercalate list) = .ok [a, a] ∧
      IsBad " 28FF\t" "28FF" ∧
      parseList (",".intercalate (list ++ [" 28FF\t", "zz"])) = .error (.invalidAddress "28FF") := by
  intro a marked list
  obtain ⟨hone, -, hlist, hfirst⟩ := spellings_survive
  have hmarked : Respelled a.toText.toList marked.toList :=
    respelled_of_unmarked (by decide +kernel)
  have hplain : Respelled a.toText.toList "28FF4C609116048E".toList :=
    respelled_of_unmarked (by decide +kernel)
  have hspelled : SpelledOut [a, a] list :=
    .address "\u3000" marked "\n" (forall_mem_of_all (by decide)) (forall_mem_of_all (by decide))
      hmarked <|
      .blank (forall_mem_of_all (by decide)) <| .address "" _ "" (by simp) (by simp) hplain .nil
  have hbad : IsBad " 28FF\t" "28FF" := by
    have htrims : Trims " 28FF\t".toList "28FF".toList := by
      refine ⟨⟨[' '], ['\t'], by decide, forall_mem_of_all (by decide),
        forall_mem_of_all (by decide)⟩, ?_, ?_⟩
      · rintro c ⟨⟩
        decide
      · rintro c ⟨⟩
        decide
    have hrefused : parse "28FF" = .error (.invalidAddress "28FF") := by decide +kernel
    refine ⟨htrims, by decide, fun a h => ?_⟩
    rw [hrefused] at h
    cases h
  have hgood : ∀ p ∈ list, ∀ core, ¬ IsBad p core := by
    have hpieces : ∀ p ∈ list,
        trim p.toList = [] ∨ parse (.ofList (trim p.toList)) = .ok a := by decide +kernel
    rintro p hp core ⟨htrims, hfull, hnone⟩
    have hpiece := hpieces p hp
    rw [trim_of_trims htrims, String.ofList_toList] at hpiece
    rcases hpiece with hempty | hread
    · exact hfull (String.toList_eq_nil_iff.mp hempty)
    · exact hnone a hread
  refine ⟨hmarked, (hone a marked hmarked).1, hspelled, hlist _ _ hspelled, hbad, ?_⟩
  exact hfirst list ["zz"] " 28FF\t" "28FF" (by decide +kernel) hgood hbad

end Address

end BusMaster
