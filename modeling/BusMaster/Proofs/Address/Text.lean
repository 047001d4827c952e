import BusMaster.Address.Text
import BusMaster.Proofs.Address.Bytes

/-!
# Lists of addresses in text

A list is read piece by piece: what stands between two commas, without the blanks
around it, unless nothing is left.

* `parse_toText`: the digits of an address spell it;
* `pieces`, `Spells text addresses`: the pieces of a list, and what they spell;
* `isMalformed`: the pieces that spell no address; the first of them is the one that
  the error names (`parseList_of_malformed`);
* `spells_listText`: every list of addresses has a text.
-/

namespace BusMaster

namespace Text

/-! ## Hexadecimal digits -/

/-- The digits are neither blanks nor commas nor any of the marks that can stand in an
address. -/
theorem hexDigit_plain {value : Nat} (h : value < 16) :
    isBlank (hexDigit value) = false ∧ Address.isSeparator (hexDigit value) = false ∧
      (hexDigit value).toNat < 128 ∧ hexDigit value ≠ ',' := by
  revert value
  decide +kernel

theorem mem_hexBytes {bytes : List UInt8} {c : Char} (h : c ∈ hexBytes bytes) :
    ∃ value < 16, c = hexDigit value := by
  obtain ⟨byte, -, hc⟩ := List.mem_flatMap.mp h
  have hbyte := byte.toNat_lt
  rcases List.mem_pair.mp hc with rfl | rfl
  · exact ⟨byte.toNat / 16, by omega, rfl⟩
  · exact ⟨byte.toNat % 16, by omega, rfl⟩

theorem readByte_hexByte (byte : UInt8) : Numeral.readByte (hexByte byte) = .ok byte := by
  have hpair : ∀ high < 16, ∀ low < 16,
      Numeral.readByte [hexDigit high, hexDigit low] = .ok (UInt8.ofNat (16 * high + low)) := by
    decide +kernel
  have hbyte := byte.toNat_lt
  rw [hexByte, hpair _ (by omega) _ (by omega), Nat.div_add_mod, UInt8.ofNat_toNat]

theorem length_hexBytes (bytes : List UInt8) : (hexBytes bytes).length = 2 * bytes.length := by
  induction bytes with
  | nil => rfl
  | cons byte bytes ih =>
    rw [hexBytes, List.flatMap_cons, List.length_append, ← hexBytes, ih, List.length_cons]
    show 2 + _ = _
    omega

/-! ## Blanks -/

theorem trimStart_of_no_blank {cs : List Char} (h : ∀ c ∈ cs, isBlank c = false) :
    trimStart cs = cs := by
  cases cs with
  | nil => rfl
  | cons c cs => rw [trimStart, List.dropWhile_cons_of_neg (by simp [h c List.mem_cons_self])]

theorem trim_of_no_blank {cs : List Char} (h : ∀ c ∈ cs, isBlank c = false) : trim cs = cs := by
  rw [trim, trimStart_of_no_blank h, trimStart_of_no_blank fun c hc => h c (List.mem_reverse.mp hc),
    List.reverse_reverse]

end Text

namespace Address

open Text

/-! ## One address -/

theorem readBytes_hexBytes (bytes : List UInt8) : readBytes (hexBytes bytes) = some bytes := by
  induction bytes with
  | nil => rfl
  | cons byte bytes ih =>
    show (do
      let byte ← (Numeral.readByte (hexByte byte)).toOption
      let bytes ← readBytes (hexBytes bytes)
      return byte :: bytes) = _
    rw [readByte_hexByte, ih]
    rfl

theorem length_digits (a : Address) : a.digits.length = 16 := by
  rw [digits, length_hexBytes, length_bytes]

theorem read?_digits (a : Address) : read? a.digits = some a := by
  have hplain : a.digits.filter (!isSeparator ·) = a.digits := by
    refine List.filter_eq_self.mpr fun c hc => ?_
    obtain ⟨value, hv, rfl⟩ := mem_hexBytes hc
    rw [(hexDigit_plain hv).2.1]
    rfl
  have hascii : a.digits.all (·.toNat < 128) = true := by
    refine List.all_eq_true.mpr fun c hc => ?_
    obtain ⟨value, hv, rfl⟩ := mem_hexBytes hc
    exact decide_eq_true (hexDigit_plain hv).2.2.1
  rw [read?, hplain, if_pos ⟨a.length_digits, hascii⟩, digits, readBytes_hexBytes, Option.map_some,
    ofBytes_bytes]

/-- The digits of an address spell it. -/
theorem parse_toText (a : Address) : parse a.toText = .ok a := by
  rw [parse, toText, String.toList_ofList, read?_digits]

/-- The text spells no address. -/
def isMalformed (text : String) : Bool :=
  (parse text).toOption.isNone

theorem parse_of_malformed {text : String} (h : isMalformed text = true) :
    parse text = .error (.invalidAddress text) := by
  rw [isMalformed, parse] at h
  rw [parse]
  cases hr : read? text.toList with
  | none => rfl
  | some a =>
    rw [hr] at h
    cases h

theorem exists_parse {text : String} (h : isMalformed text = false) : ∃ a, parse text = .ok a := by
  rw [isMalformed] at h
  cases hp : parse text with
  | ok a => exact ⟨a, rfl⟩
  | error e =>
    rw [hp] at h
    cases h

/-! ## The pieces of a list -/

/-- The pieces of a list: what stands between its commas without the blanks around
it, where something is left. -/
def pieces (text : String) : List String :=
  (((text.toList.splitOn ',').map trim).filter (!·.isEmpty)).map .ofList

/-- The pieces of the list are these addresses, one after the other. -/
def Spells (text : String) (addresses : List Address) : Prop :=
  (pieces text).map parse = addresses.map .ok

theorem parseList_eq_mapM (text : String) : parseList text = (pieces text).mapM parse := by
  rw [parseList, pieces, List.mapM_map]
  rfl

theorem parseList_of_spells {text : String} {addresses : List Address}
    (h : Spells text addresses) : parseList text = .ok addresses := by
  rw [Spells] at h
  rw [parseList_eq_mapM]
  generalize pieces text = ps at h
  induction ps generalizing addresses with
  | nil =>
    obtain rfl := List.map_eq_nil_iff.mp h.symm
    rfl
  | cons p ps ih =>
    cases addresses with
    | nil => cases h
    | cons a addresses =>
      obtain ⟨hp, hps⟩ := List.cons.inj h
      rw [List.mapM_cons, hp, ih hps]
      rfl

/-- The error names the first piece that spells no address. -/
theorem parseList_of_malformed {text piece : String}
    (h : (pieces text).find? isMalformed = some piece) :
    parseList text = .error (.invalidAddress piece) := by
  rw [parseList_eq_mapM]
  generalize pieces text = ps at h
  induction ps with
  | nil => cases h
  | cons p ps ih =>
    cases hp : isMalformed p with
    | true =>
      rw [List.find?_cons_of_pos hp] at h
      obtain rfl := Option.some.inj h
      rw [List.mapM_cons, parse_of_malformed hp]
      rfl
    | false =>
      rw [List.find?_cons_of_neg (by simp [hp])] at h
      obtain ⟨a, ha⟩ := exists_parse hp
      rw [List.mapM_cons, ha, ih h]
      rfl

/-- A list without malformed pieces spells some addresses. -/
theorem exists_spells {text : String} (h : (pieces text).find? isMalformed = none) :
    ∃ addresses, Spells text addresses := by
  simp only [Spells]
  generalize pieces text = ps at h
  induction ps with
  | nil => exact ⟨[], rfl⟩
  | cons p ps ih =>
    have hno := List.find?_eq_none.mp h
    obtain ⟨a, ha⟩ := exists_parse (Bool.eq_false_of_not_eq_true (hno p List.mem_cons_self))
    obtain ⟨addresses, has⟩ := ih (List.find?_eq_none.mpr fun q hq => hno q (.tail p hq))
    exact ⟨a :: addresses, by rw [List.map_cons, List.map_cons, ha, has]⟩

/-! ## The text of a list -/

/-- The digits of the addresses with commas between them. -/
def listText (addresses : List Address) : String :=
  .ofList ([','].intercalate (addresses.map digits))

theorem pieces_listText (addresses : List Address) :
    pieces (listText addresses) = addresses.map toText := by
  cases addresses with
  | nil => decide
  | cons a addresses =>
    have hcomma : ∀ l ∈ (a :: addresses).map digits, ',' ∉ l := by
      intro l hl hc
      obtain ⟨b, -, rfl⟩ := List.mem_map.mp hl
      obtain ⟨value, hv, he⟩ := mem_hexBytes hc
      exact (hexDigit_plain hv).2.2.2 he.symm
    have htrim : ((a :: addresses).map digits).map trim = (a :: addresses).map digits := by
      rw [List.map_map]
      refine List.map_congr_left fun b _ => trim_of_no_blank fun c hc => ?_
      obtain ⟨value, hv, rfl⟩ := mem_hexBytes hc
      exact (hexDigit_plain hv).1
    have hfull :
        ((a :: addresses).map digits).filter (!·.isEmpty) = (a :: addresses).map digits := by
      refine List.filter_eq_self.mpr fun l hl => ?_
      obtain ⟨b, -, rfl⟩ := List.mem_map.mp hl
      cases h : b.digits with
      | nil => exact absurd (congrArg List.length h) (by rw [length_digits]; decide)
      | cons => rfl
    rw [pieces, listText, String.toList_ofList, List.splitOn_intercalate _ hcomma (by simp), htrim,
      hfull, List.map_map]
    rfl

/-- Every list of addresses has a text that spells it. -/
theorem spells_listText (addresses : List Address) : Spells (listText addresses) addresses := by
  rw [Spells, pieces_listText, List.map_map]
  exact List.map_congr_left fun a _ => a.parse_toText

end Address

end BusMaster
