import BusMaster.Proofs.Address.Text
import Mathlib.Data.String.Basic

/-!
# The texts that spell an address

An address is sixteen hexadecimal digits, two for each byte, with marks in between
that mean nothing. What is read as an address is a little more: each pair is read as
a numeral of its own, and a numeral may begin with a plus sign.

* `hexValue?`, `Numeral.digit?_eq`: the hexadecimal digits;
* `Address.digitsWorth`, `Address.signedWorth`: what a pair is worth, as two digits or
  as a numeral;
* `Address.SpelledBy`: sixteen characters, the pairs of which are the bytes;
* `Address.parse_eq_ok_iff`: what is read as which address;
* `Address.parseSlices_eq`: the pairs taken out of the text by their bytes in UTF-8;
* `Address.parse_takes_signs`: all together.
-/

namespace BusMaster

namespace Text

/-! ## Digits -/

/-- The value of a hexadecimal digit of either case. -/
def hexValue? (c : Char) : Option Nat :=
  ("0123456789abcdef".toList.idxOf? c).or ("0123456789ABCDEF".toList.idxOf? c)

/-- A property of the ASCII characters, shown for each code. -/
theorem forall_ascii {P : Char → Prop} (h : ∀ n < 128, P (Char.ofNat n)) {c : Char}
    (hc : c.toNat < 128) : P c := by
  have hP := h c.toNat hc
  rwa [Char.ofNat_toNat] at hP

/-- A property of the characters of a text, shown by going through them. -/
theorem forall_mem_of_all {P : Char → Prop} [DecidablePred P] {cs : List Char}
    (h : cs.all (P ·) = true) : ∀ c ∈ cs, P c :=
  fun c hc => of_decide_eq_true (List.all_eq_true.mp h c hc)

theorem hexValue?_of_not_ascii {c : Char} (hc : 128 ≤ c.toNat) : hexValue? c = none := by
  have hno : ∀ digits : List Char, digits.all (·.toNat < 128) = true →
      digits.idxOf? c = none := by
    intro digits hall
    refine List.idxOf?_eq_none_iff.mpr fun hmem => ?_
    have := forall_mem_of_all hall c hmem
    omega
  rw [hexValue?, hno _ (by decide +kernel), hno _ (by decide +kernel)]
  rfl

theorem Numeral.digit?_of_not_ascii {c : Char} (hc : 128 ≤ c.toNat) : digit? 16 c = none := by
  have hbeyond : ∀ low high : Char, high.toNat < 128 → ¬ (low ≤ c ∧ c ≤ high) := by
    rintro low high hhigh ⟨-, hle⟩
    have : c.toNat ≤ high.toNat := hle
    omega
  rw [digit?, if_neg (hbeyond _ _ (by decide)), if_neg (hbeyond _ _ (by decide)),
    if_neg (hbeyond _ _ (by decide))]
  rfl

/-- The digits of a numeral in base sixteen. -/
theorem Numeral.digit?_eq (c : Char) : digit? 16 c = hexValue? c := by
  rcases Nat.lt_or_ge c.toNat 128 with hc | hc
  · refine forall_ascii (P := fun c => digit? 16 c = hexValue? c) ?_ hc
    decide +kernel
  · rw [digit?_of_not_ascii hc, hexValue?_of_not_ascii hc]

theorem ascii_of_hexValue? {c : Char} {value : Nat} (h : hexValue? c = some value) :
    c.toNat < 128 := by
  by_contra hc
  rw [hexValue?_of_not_ascii (Nat.not_lt.mp hc)] at h
  cases h

theorem hexValue?_lt {c : Char} {value : Nat} (h : hexValue? c = some value) : value < 16 := by
  rw [← Numeral.digit?_eq, Numeral.digit?, Option.filter_eq_some_iff] at h
  exact of_decide_eq_true h.2

theorem Numeral.extend_of_digit {c : Char} {cs : List Char} {limit value d : Nat}
    (h : hexValue? c = some d) (hle : value * 16 + d ≤ limit) :
    extend 16 limit value (c :: cs) = extend 16 limit (value * 16 + d) cs := by
  simp only [extend, digit?_eq, h]
  exact if_neg (Nat.not_lt.mpr hle)

theorem Numeral.extend_of_no_digit {c : Char} {cs : List Char} {value : Nat}
    (h : hexValue? c = none) : extend 16 255 value (c :: cs) = .error .invalidDigit := by
  simp only [extend, digit?_eq, h]

end Text

namespace Address

open Text

/-! ## Pairs -/

/-- What a pair is worth as two digits. -/
def digitsWorth (high low : Char) : Option Nat := do
  return 16 * (← hexValue? high) + (← hexValue? low)

/-- What a pair is worth as a numeral, the first of it a digit or a plus sign. -/
def signedWorth (high low : Char) : Option Nat :=
  if high = '+' then hexValue? low else digitsWorth high low

theorem digitsWorth_eq_some_iff {high low : Char} {n : Nat} : digitsWorth high low = some n ↔
    ∃ h l, hexValue? high = some h ∧ hexValue? low = some l ∧ 16 * h + l = n := by
  rw [digitsWorth]
  cases hexValue? high <;> cases hexValue? low <;> simp

/-- No digit is a plus sign. -/
theorem ne_plus_of_digitsWorth {high low : Char} {n : Nat} (h : digitsWorth high low = some n) :
    high ≠ '+' ∧ low ≠ '+' := by
  obtain ⟨x, y, hx, hy, -⟩ := digitsWorth_eq_some_iff.mp h
  constructor
  · rintro rfl
    cases hx
  · rintro rfl
    cases hy

theorem signedWorth_of_ne {high low : Char} (h : high ≠ '+') :
    signedWorth high low = digitsWorth high low :=
  if_neg h

theorem ascii_of_signedWorth {high low : Char} {n : Nat} (h : signedWorth high low = some n) :
    high.toNat < 128 ∧ low.toNat < 128 ∧ n < 256 := by
  by_cases hplus : high = '+'
  · subst hplus
    have hlow : hexValue? low = some n := h
    have := hexValue?_lt hlow
    exact ⟨by decide, ascii_of_hexValue? hlow, by omega⟩
  · rw [signedWorth_of_ne hplus, digitsWorth_eq_some_iff] at h
    obtain ⟨x, y, hx, hy, rfl⟩ := h
    have := hexValue?_lt hx
    have := hexValue?_lt hy
    exact ⟨ascii_of_hexValue? hx, ascii_of_hexValue? hy, by omega⟩

/-- A pair is read as a numeral. -/
theorem readByte_pair (high low : Char) :
    (Numeral.readByte [high, low]).toOption = (signedWorth high low).map UInt8.ofNat := by
  by_cases hplus : high = '+'
  · subst hplus
    show ((Numeral.extend 16 255 0 [low]).map UInt8.ofNat).toOption =
      (hexValue? low).map UInt8.ofNat
    cases hlow : hexValue? low with
    | none =>
      rw [Numeral.extend_of_no_digit hlow]
      rfl
    | some l =>
      have hl := hexValue?_lt hlow
      rw [Numeral.extend_of_digit hlow (by omega), Numeral.extend, Nat.zero_mul, Nat.zero_add]
      rfl
  · have hread : Numeral.read 16 255 [high, low] = Numeral.extend 16 255 0 [high, low] := by
      rw [Numeral.read]
      · simp
      · simp
      · intro digits hd
        exact hplus (List.cons.inj hd).1
    rw [Numeral.readByte, hread, signedWorth_of_ne hplus, digitsWorth]
    cases hhigh : hexValue? high with
    | none =>
      rw [Numeral.extend_of_no_digit hhigh]
      rfl
    | some h =>
      have hh := hexValue?_lt hhigh
      rw [Numeral.extend_of_digit hhigh (by omega)]
      cases hlow : hexValue? low with
      | none =>
        rw [Numeral.extend_of_no_digit hlow]
        rfl
      | some l =>
        have hl := hexValue?_lt hlow
        rw [Numeral.extend_of_digit hlow (by omega), Numeral.extend, Nat.zero_mul, Nat.zero_add,
          Nat.mul_comm h]
        rfl

theorem readByte_pair_eq_some_iff {high low : Char} {byte : UInt8} :
    (Numeral.readByte [high, low]).toOption = some byte ↔
      signedWorth high low = some byte.toNat := by
  rw [readByte_pair, Option.map_eq_some_iff]
  constructor
  · rintro ⟨n, hn, rfl⟩
    rw [UInt8.toNat_ofNat_of_lt' (ascii_of_signedWorth hn).2.2, hn]
  · intro h
    exact ⟨byte.toNat, h, UInt8.ofNat_toNat⟩

/-! ## Sixteen characters -/

/-- The characters, two for each byte, each pair of them worth its byte. -/
def PairsBy (worth : Char → Char → Option Nat) (cs : List Char) (bytes : List UInt8) : Prop :=
  cs.length = 2 * bytes.length ∧ ∀ i < bytes.length, ∃ high low,
    cs[2 * i]? = some high ∧ cs[2 * i + 1]? = some low ∧
      worth high low = some (bytes.getD i 0).toNat

theorem pairsBy_cons {worth : Char → Char → Option Nat} {high low : Char} {cs : List Char}
    {byte : UInt8} {bytes : List UInt8} :
    PairsBy worth (high :: low :: cs) (byte :: bytes) ↔
      worth high low = some byte.toNat ∧ PairsBy worth cs bytes := by
  constructor
  · rintro ⟨hlength, hpairs⟩
    obtain ⟨x, y, hx, hy, hworth⟩ := hpairs 0 (Nat.zero_lt_succ _)
    cases hx
    cases hy
    refine ⟨hworth, ?_, fun i hi => ?_⟩
    · simp only [List.length_cons] at hlength
      omega
    · exact hpairs (i + 1) (Nat.succ_lt_succ hi)
  · rintro ⟨hworth, hlength, hpairs⟩
    refine ⟨?_, fun i hi => ?_⟩
    · simp only [List.length_cons]
      omega
    · cases i with
      | zero => exact ⟨high, low, rfl, rfl, hworth⟩
      | succ i => exact hpairs i (Nat.lt_of_succ_lt_succ hi)

theorem readBytes_cons_eq_some_iff {high low : Char} {cs : List Char} {byte : UInt8}
    {bytes : List UInt8} : readBytes (high :: low :: cs) = some (byte :: bytes) ↔
      signedWorth high low = some byte.toNat ∧ readBytes cs = some bytes := by
  rw [← readByte_pair_eq_some_iff, readBytes]
  cases (Numeral.readByte [high, low]).toOption <;> cases readBytes cs <;> simp

theorem readBytes_eq_some_iff {cs : List Char} {bytes : List UInt8} :
    readBytes cs = some bytes ↔ PairsBy signedWorth cs bytes := by
  induction bytes generalizing cs with
  | nil =>
    match cs with
    | [] => simp [readBytes, PairsBy]
    | [c] => simp [readBytes, PairsBy]
    | high :: low :: cs =>
      rw [readBytes]
      cases (Numeral.readByte [high, low]).toOption <;> cases readBytes cs <;> simp [PairsBy]
  | cons byte bytes ih =>
    match cs with
    | [] => simp [readBytes, PairsBy]
    | [c] =>
      refine iff_of_false nofun fun h => ?_
      have := h.1
      simp only [List.length_cons, List.length_nil] at this
      omega
    | high :: low :: cs => rw [readBytes_cons_eq_some_iff, ih, pairsBy_cons]

/-- Each of the characters is in one of the pairs. -/
theorem PairsBy.forall_mem {worth : Char → Char → Option Nat} {P : Char → Prop} {cs : List Char}
    {bytes : List UInt8} (h : PairsBy worth cs bytes)
    (hP : ∀ high low n, worth high low = some n → P high ∧ P low) : ∀ c ∈ cs, P c := by
  intro c hc
  obtain ⟨j, hj, rfl⟩ := List.mem_iff_getElem.mp hc
  have hlength := h.1
  obtain ⟨high, low, hhigh, hlow, hworth⟩ := h.2 (j / 2) (by omega)
  obtain ⟨hPhigh, hPlow⟩ := hP high low _ hworth
  rcases Nat.mod_two_eq_zero_or_one j with hmod | hmod
  · rw [show 2 * (j / 2) = j by omega, List.getElem?_eq_getElem hj] at hhigh
    rwa [Option.some.inj hhigh]
  · rw [show 2 * (j / 2) + 1 = j by omega, List.getElem?_eq_getElem hj] at hlow
    rwa [Option.some.inj hlow]

/-- The pairs that are digits are the numerals without a sign. -/
theorem pairsBy_digitsWorth_iff {cs : List Char} {bytes : List UInt8} :
    PairsBy digitsWorth cs bytes ↔ PairsBy signedWorth cs bytes ∧ '+' ∉ cs := by
  constructor
  · intro h
    have hno : ∀ c ∈ cs, c ≠ '+' := h.forall_mem fun _ _ _ => ne_plus_of_digitsWorth
    refine ⟨⟨h.1, fun i hi => ?_⟩, fun hplus => hno _ hplus rfl⟩
    obtain ⟨high, low, hhigh, hlow, hworth⟩ := h.2 i hi
    refine ⟨high, low, hhigh, hlow, ?_⟩
    rw [signedWorth_of_ne (ne_plus_of_digitsWorth hworth).1, hworth]
  · rintro ⟨h, hno⟩
    refine ⟨h.1, fun i hi => ?_⟩
    obtain ⟨high, low, hhigh, hlow, hworth⟩ := h.2 i hi
    have hne : high ≠ '+' := fun he => hno (he ▸ List.mem_of_getElem? hhigh)
    rw [signedWorth_of_ne hne] at hworth
    exact ⟨high, low, hhigh, hlow, hworth⟩

/-- The characters of a text without the marks that mean nothing. -/
def unmarked (text : String) : List Char :=
  text.toList.filter (!isSeparator ·)

theorem plus_mem_unmarked {text : String} : '+' ∈ unmarked text ↔ '+' ∈ text.toList := by
  rw [unmarked, List.mem_filter]
  exact and_iff_left rfl

/-- A text is read as the address whose bytes are the numerals that its pairs are. -/
theorem parse_eq_ok_iff {text : String} {a : Address} :
    parse text = .ok a ↔ PairsBy signedWorth (unmarked text) a.bytes := by
  have hread : parse text = .ok a ↔ read? text.toList = some a := by
    rw [parse]
    cases read? text.toList <;> simp
  rw [hread, read?, ← unmarked, ← readBytes_eq_some_iff]
  constructor
  · intro h
    split at h
    · rename_i hplain
      obtain ⟨bytes, hbytes, rfl⟩ := Option.map_eq_some_iff.mp h
      have hlength := (readBytes_eq_some_iff.mp hbytes).1
      rwa [bytes_ofBytes (by omega)]
    · cases h
  · intro h
    have hpairs := readBytes_eq_some_iff.mp h
    have hascii : (unmarked text).all (·.toNat < 128) = true := by
      refine List.all_eq_true.mpr fun c hc => decide_eq_true ?_
      refine hpairs.forall_mem (P := fun c => c.toNat < 128) (fun _ _ _ hworth => ?_) c hc
      exact ⟨(ascii_of_signedWorth hworth).1, (ascii_of_signedWorth hworth).2.1⟩
    rw [if_pos ⟨hpairs.1, hascii⟩, h, Option.map_some, ofBytes_bytes]

/-- What is not read is refused with the text as it was given. -/
theorem parse_of_ne_ok {text : String} (h : ∀ a, parse text ≠ .ok a) :
    parse text = .error (.invalidAddress text) := by
  refine parse_of_malformed ?_
  rw [isMalformed]
  cases hp : parse text with
  | ok a => exact absurd hp (h a)
  | error e => rfl

/-! ## Slices of bytes -/

/-- The piece of a text from one position in its UTF-8 bytes to another. There is none
if a position is beyond the end or inside a character. -/
def slice? (text : String) (start stop : Nat) : Option String :=
  if start ≤ stop ∧ String.Pos.Raw.isValid text ⟨start⟩ = true ∧
      String.Pos.Raw.isValid text ⟨stop⟩ = true then
    some (String.Pos.Raw.extract text ⟨start⟩ ⟨stop⟩)
  else none

/-- The bytes that the slices of these numbers are numerals of, up to the first that is
none. Nothing if there is no such slice. -/
def readSlices (digits : String) : List Nat → Option (Option (List UInt8))
  | [] => some (some [])
  | i :: is =>
    match slice? digits (2 * i) (2 * i + 2) with
    | none => none
    | some pair =>
      match (Numeral.readByte pair.toList).toOption with
      | none => some none
      | some byte => (readSlices digits is).map (·.map (byte :: ·))

/-- The address that the text spells, its length counted and its pairs taken in bytes of
UTF-8. Nothing if a pair cannot be taken. -/
def parseSlices (text : String) : Option (Except BusError Address) :=
  let digits := String.ofList (unmarked text)
  if digits.utf8ByteSize = 16 ∧ digits.toList.all (·.toNat < 128) then
    (readSlices digits (List.range 8)).map fun
      | some bytes => .ok (ofBytes bytes)
      | none => .error (.invalidAddress text)
  else some (.error (.invalidAddress text))

theorem utf8Len_of_ascii {cs : List Char} (h : ∀ c ∈ cs, c.toNat < 128) :
    String.utf8Len cs = cs.length := by
  induction cs with
  | nil => rfl
  | cons c cs ih =>
    rw [List.forall_mem_cons] at h
    have hsize : c.utf8Size = 1 := by
      refine Char.utf8Size_eq_one_iff.mpr ?_
      have := h.1
      exact UInt32.le_iff_toNat_le.mpr (Nat.le_of_lt_succ this)
    rw [String.utf8Len_cons, ih h.2, hsize, List.length_cons]

/-- Among ASCII characters every position is one to cut at. -/
theorem slice?_of_ascii {front pair back : List Char}
    (h : ∀ c ∈ front ++ pair ++ back, c.toNat < 128) :
    slice? (String.ofList (front ++ pair ++ back)) front.length (front.length + pair.length) =
      some (String.ofList pair) := by
  have hcut : ∀ n ≤ (front ++ pair ++ back).length,
      String.Pos.Raw.isValid (String.ofList (front ++ pair ++ back)) ⟨n⟩ = true := by
    intro n hn
    rw [String.Pos.Raw.isValid_eq_true_iff, String.Pos.Raw.isValid_ofList]
    refine ⟨n, ?_⟩
    rw [String.utf8ByteSize_ofList, utf8Len_of_ascii fun c hc => h c (List.mem_of_mem_take hc),
      List.length_take, Nat.min_eq_left hn]
  have hfront : String.utf8Len front = front.length :=
    utf8Len_of_ascii fun c hc => h c (by simp [hc])
  have hpair : String.utf8Len pair = pair.length :=
    utf8Len_of_ascii fun c hc => h c (by simp [hc])
  have hextract := String.extract_of_valid front pair back
  rw [hfront, hpair] at hextract
  rw [slice?, if_pos ⟨Nat.le_add_right _ _, hcut _ (by simp), hcut _ (by simp)⟩,
    hextract]

/-- The slices from number `i` on, `n` of them, are the pairs of what follows the first
`2 * i` characters. -/
theorem readSlices_eq {n i : Nat} (front cs : List Char) (hfront : front.length = 2 * i)
    (hcs : cs.length = 2 * n) (hascii : ∀ c ∈ front ++ cs, c.toNat < 128) :
    readSlices (String.ofList (front ++ cs)) (List.range' i n) = some (readBytes cs) := by
  induction n generalizing i front cs with
  | zero =>
    obtain rfl := List.length_eq_zero_iff.mp hcs
    rfl
  | succ n ih =>
    match cs with
    | high :: low :: rest =>
      have hsplit : front ++ high :: low :: rest = front ++ [high, low] ++ rest := by simp
      have hslice := slice?_of_ascii (hsplit ▸ hascii)
      have hrest := ih (i := i + 1) (front ++ [high, low]) rest (by simp; omega)
        (by simp at hcs; omega) (hsplit ▸ hascii)
      rw [hfront] at hslice
      rw [List.range'_succ, readSlices, hsplit,
        show 2 * i + 2 = 2 * i + [high, low].length from rfl,
        hslice]
      simp only [String.toList_ofList, hrest, readBytes]
      cases (Numeral.readByte [high, low]).toOption with
      | none => rfl
      | some byte => cases readBytes rest <;> rfl

/-- No pair is cut out beyond the end or inside a character, and what the pairs spell
is what is read. -/
theorem parseSlices_eq (text : String) : parseSlices text = some (parse text) := by
  have hsame : (String.ofList (unmarked text)).utf8ByteSize = 16 ∧
      (String.ofList (unmarked text)).toList.all (·.toNat < 128) = true ↔
      (unmarked text).length = 16 ∧ (unmarked text).all (·.toNat < 128) = true := by
    rw [String.toList_ofList]
    refine and_congr_left fun hall => ?_
    rw [String.utf8ByteSize_ofList,
      utf8Len_of_ascii fun c hc => of_decide_eq_true (List.all_eq_true.mp hall c hc)]
  rw [parseSlices, parse, read?, ← unmarked]
  by_cases hplain : (unmarked text).length = 16 ∧ (unmarked text).all (·.toNat < 128) = true
  · have hslices := readSlices_eq (n := 8) (i := 0) [] (unmarked text) rfl hplain.1
      fun c hc => of_decide_eq_true (List.all_eq_true.mp hplain.2 c hc)
    rw [List.nil_append, ← List.range_eq_range'] at hslices
    rw [if_pos (hsame.mpr hplain), if_pos hplain, hslices]
    cases readBytes (unmarked text) <;> rfl
  · rw [if_neg fun h => hplain (hsame.mp h), if_neg hplain]

/-! ## All together -/

/-- A text is read as an address exactly if its characters, the marks apart, are eight
pairs, each of them two hexadecimal digits or a plus sign and a digit, and the pairs are
the bytes. Any other text is refused, and named as it was given. The pairs can be taken
out of the UTF-8 bytes of the text. For one text the digits alone say what is read,
unless it has a plus sign and is read all the same. -/
theorem parse_takes_signs (text : String) :
    (∀ a : Address, parse text = .ok a ↔ PairsBy signedWorth (unmarked text) a.bytes) ∧
    ((∀ a : Address, ¬ PairsBy signedWorth (unmarked text) a.bytes) →
      parse text = .error (.invalidAddress text)) ∧
    parseSlices text = some (parse text) ∧
    ((∀ a : Address, parse text = .ok a ↔ PairsBy digitsWorth (unmarked text) a.bytes) ↔
      ('+' ∈ text.toList → ∀ a, parse text ≠ .ok a)) := by
  refine ⟨fun a => parse_eq_ok_iff, fun hno => parse_of_ne_ok fun a h => ?_, parseSlices_eq text,
    fun hdigits hplus a h => ?_, fun hno a => ?_⟩
  · exact hno a (parse_eq_ok_iff.mp h)
  · exact (pairsBy_digitsWorth_iff.mp ((hdigits a).mp h)).2 (plus_mem_unmarked.mpr hplus)
  · rw [pairsBy_digitsWorth_iff, ← parse_eq_ok_iff, plus_mem_unmarked]
    exact ⟨fun h => ⟨h, fun hplus => hno hplus a h⟩, And.left⟩

/-- Digits of both cases with marks between them are read, and eight letters of two
bytes each are refused. -/
theorem parse_takes_signs_of_marks :
    let text := "28:ff-4C 609116048e"
    let wide := "éééééééé"
    parse text = .ok (.ofBytes [0x28, 0xFF, 0x4C, 0x60, 0x91, 0x16, 0x04, 0x8E]) ∧
      PairsBy digitsWorth (unmarked text) [0x28, 0xFF, 0x4C, 0x60, 0x91, 0x16, 0x04, 0x8E] ∧
      (∀ a : Address, ¬ PairsBy signedWorth (unmarked wide) a.bytes) ∧
      parse wide = .error (.invalidAddress wide) := by
  intro text wide
  obtain ⟨-, -, -, hdigits⟩ := parse_takes_signs text
  obtain ⟨-, hrefused, -, -⟩ := parse_takes_signs wide
  have hread : parse text =
      .ok (.ofBytes [0x28, 0xFF, 0x4C, 0x60, 0x91, 0x16, 0x04, 0x8E]) := by decide +kernel
  have hplus : '+' ∉ text.toList := by decide +kernel
  have hshort : ∀ a : Address, ¬ PairsBy signedWorth (unmarked wide) a.bytes := by
    intro a h
    have hlength : (unmarked wide).length = 8 := by decide +kernel
    have := h.1
    rw [hlength, length_bytes] at this
    omega
  have hspelled := (hdigits.mpr (fun h => absurd h hplus) _).mp hread
  rw [bytes_ofBytes rfl] at hspelled
  exact ⟨hread, hspelled, hshort, hrefused hshort⟩

/-- A plus sign and fifteen digits are read as an address. -/
theorem parse_of_plus :
    let text := "+100000000000000"
    parse text = .ok (.ofBytes [1, 0, 0, 0, 0, 0, 0, 0]) ∧
      ¬ PairsBy digitsWorth (unmarked text) [1, 0, 0, 0, 0, 0, 0, 0] := by
  intro text
  have hread : parse text = .ok (.ofBytes [1, 0, 0, 0, 0, 0, 0, 0]) := by decide +kernel
  have hplus : '+' ∈ unmarked text := by decide +kernel
  exact ⟨hread, fun h => (pairsBy_digitsWorth_iff.mp h).2 hplus⟩

end Address

end BusMaster
