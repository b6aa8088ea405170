import Mathlib.Data.List.Sort
import ClusterOperator.Proofs.Url.Reread

/-!
# Labels that are sent and not read again

A label of up to a thousand characters is sent, but of its Punycode no more than two thousand digits
are read. Ideographs that are far apart take three digits each, so a label of these can be sent and
not read again.
-/

namespace ClusterOperator.Url

namespace Punycode

variable {bias basic code reached : Nat} {codes label : List Nat}

/-! ## Many digits -/

/-- From here on a number takes three digits, whatever the bias. -/
theorem three_le_writeNumber {n : Nat} (h : 911 ≤ n) (bias : Nat) :
    3 ≤ (writeNumber bias 36 n).length := by
  have hbounds (place : Nat) : 1 ≤ threshold bias place ∧ threshold bias place ≤ 26 := by
    unfold threshold
    omega
  have h36 := hbounds 36
  have h72 := hbounds (36 + 36)
  have hrest : 26 ≤ (n - threshold bias 36) / (36 - threshold bias 36) := by
    rw [Nat.le_div_iff_mul_le (by omega)]
    omega
  rw [writeNumber, if_neg (by omega), List.length_cons, writeNumber, if_neg (by omega),
    List.length_cons]
  have hlast := List.length_pos_of_ne_nil (writeNumber_ne_nil bias (36 + 36 + 36)
    (((n - threshold bias 36) / (36 - threshold bias 36) - threshold bias (36 + 36)) /
      (36 - threshold bias (36 + 36))))
  omega

theorem encodeCode_grows (cs : List Nat) (e : Encoder) :
    e.out.length ≤ (encodeCode basic code cs e).out.length ∧
      e.count ≤ (encodeCode basic code cs e).count := by
  induction cs generalizing e with
  | nil => exact ⟨Nat.le_refl _, Nat.le_refl _⟩
  | cons c cs ih =>
    rw [encodeCode]
    split
    · exact ih { e with delta := e.delta + 1 }
    · split
      · have hrest := ih ⟨(writeNumber e.bias 36 e.delta).reverse ++ e.out, 0,
          adapt e.delta (e.count + 1) (e.count = basic), e.count + 1⟩
        simp only [List.length_append] at hrest
        omega
      · exact ih e

/-- A code point that the label holds is written, after a long way in three digits. -/
theorem encodeCode_writes {cs : List Nat} (hm : code ∈ cs) (e : Encoder) :
    e.count + 1 ≤ (encodeCode basic code cs e).count ∧
      (911 ≤ e.delta → e.out.length + 3 ≤ (encodeCode basic code cs e).out.length) := by
  induction cs generalizing e with
  | nil => cases hm
  | cons c cs ih =>
    rw [encodeCode]
    split
    · next hlt =>
      have hrest := ih ((List.mem_cons.mp hm).resolve_left (by omega)) { e with delta := e.delta + 1 }
      exact ⟨hrest.1, fun hd => hrest.2 (Nat.le_succ_of_le hd)⟩
    · split
      · have hrest := @encodeCode_grows basic code cs
          ⟨(writeNumber e.bias 36 e.delta).reverse ++ e.out, 0,
            adapt e.delta (e.count + 1) (e.count = basic), e.count + 1⟩
        simp only [List.length_append, List.length_reverse] at hrest
        refine ⟨hrest.2, fun hd => ?_⟩
        have := three_le_writeNumber hd e.bias
        omega
      · next hne => exact ih ((List.mem_cons.mp hm).resolve_left (Ne.symm hne)) e

/-- Once there are many characters, the way to a code point that is far away is long. -/
theorem length_encodeCodes (hfar : codes.Pairwise fun a b => a + 26 ≤ b)
    (hreached : ∀ c ∈ codes, reached + 25 ≤ c) (hmem : ∀ c ∈ codes, c ∈ label) (e : Encoder) :
    e.out.length + 3 * codes.length ≤
      (encodeCodes basic label reached codes e).out.length + 3 * (36 - e.count) := by
  induction codes generalizing reached e with
  | nil => simp [encodeCodes]
  | cons code codes ih =>
    obtain ⟨hnext, hfar⟩ := List.pairwise_cons.mp hfar
    have hcode := hreached code List.mem_cons_self
    obtain ⟨hm, hmem⟩ := List.forall_mem_cons.mp hmem
    rw [encodeCodes]
    have hgrows := @encodeCode_grows basic code label
      { e with delta := e.delta + (code - reached) * (e.count + 1) }
    have hwrites := @encodeCode_writes basic code label hm
      { e with delta := e.delta + (code - reached) * (e.count + 1) }
    dsimp only at hgrows hwrites
    generalize encodeCode basic code label
      { e with delta := e.delta + (code - reached) * (e.count + 1) } = e' at hgrows hwrites ⊢
    have hreached : ∀ c ∈ codes, code + 1 + 25 ≤ c := fun c hc => hnext c hc
    have hrest := ih hfar hreached hmem { e' with delta := e'.delta + 1 }
    dsimp only at hrest
    rw [List.length_cons]
    by_cases hmany : 36 ≤ e.count
    · have hway : 25 * 37 ≤ (code - reached) * (e.count + 1) :=
        Nat.mul_le_mul (by omega) (by omega)
      have := hwrites.2 (by omega)
      omega
    · omega

theorem length_encode (hfar : label.Pairwise fun a b => a + 26 ≤ b)
    (habove : ∀ c ∈ label, 0x99 ≤ c) : 3 * label.length ≤ (encode label).length + 108 := by
  have hcodes : (label.filter fun c => 0x80 ≤ c).eraseDups.mergeSort = label := by
    refine (pairwise_codes label).eq_of_mem_iff (hfar.imp fun h => by omega) fun c => ?_
    have h (hc : c ∈ label) : 0x80 ≤ c := by
      have := habove c hc
      omega
    simpa using h
  have hrest := @length_encodeCodes (label.filter fun c => c < 0x80).length 0x80 label label hfar
    habove (fun _ h => h) ⟨[], 0, initialBias, (label.filter fun c => c < 0x80).length⟩
  simp only [encode, hcodes, List.length_append, List.length_reverse]
  simp only [List.length_nil] at hrest
  omega

end Punycode

/-! ## Labels of ideographs -/

open Text (isIdeograph Table)
open Text.Table (checkClear rowsFrom)

/-- No ideograph is a mark or written from right to left. -/
theorem ideographs_checked :
    checkClear 0x4E00 0x9FFF Text.marks.toList = true ∧
      checkClear 0x4E00 0x9FFF rightLetters.toList = true ∧
      checkClear 0x4E00 0x9FFF arabicDigits.toList = true := by
  have read (cs : List Char) (h : checkClear 0x4E00 0x9FFF (rowsFrom none cs) = true) :
      checkClear 0x4E00 0x9FFF (Table.ofText (String.ofList cs)).toList = true := by
    rw [Table.toList_ofText]
    exact h
  unfold Text.marks rightLetters arabicDigits
  refine ⟨?_, ?_, ?_⟩ <;> apply read <;> decide +kernel

variable {label : Points} {n : Nat}

theorem isIdeograph_bounds (h : isIdeograph n = true) : 0x4E00 ≤ n ∧ n ≤ 0x9FFF := by
  simpa [isIdeograph] using h

theorem isMark_ideograph (h : isIdeograph n = true) : Text.isMark n = false := by
  obtain ⟨hl, hh⟩ := isIdeograph_bounds h
  rw [Text.isMark, Table.holds_eq_false (Table.row?_of_checkClear ideographs_checked.1 hl hh),
    Bool.and_false]

theorem makesRightward_ideograph (h : isIdeograph n = true) : makesRightward n = false := by
  obtain ⟨hl, hh⟩ := isIdeograph_bounds h
  have hright := Table.holds_eq_false (Table.row?_of_checkClear ideographs_checked.2.1 hl hh)
  have harabic := Table.holds_eq_false (Table.row?_of_checkClear ideographs_checked.2.2 hl hh)
  have hclass : (bidiClass n).isRightward = false := by
    simp only [bidiClass, hright, harabic, Bool.false_eq_true, if_false]
    split
    · rfl
    · split
      · rfl
      · split <;> rfl
  rw [makesRightward, hclass, Bool.and_false]

theorem plain_ideograph (h : isIdeograph n = true) : Plain n :=
  mapping_facts.2.1 n (.inr (.inr h))

theorem isDenied_ideograph (h : isIdeograph n = true) : isDenied n = false := by
  have hb := isIdeograph_bounds h
  rw [Bool.eq_false_iff]
  simp only [isDenied, ne_eq, Bool.or_eq_true, decide_eq_true_eq, Char.reduceToNat]
  omega

theorem isLabel_ideographs (h : ∀ n ∈ label, isIdeograph n = true)
    (hl : label.length ≤ mostEncoded) : isLabel label = true := by
  have hjoiners : joinersFit [] label = true := joinersFit_of_not_joiner fun n hn => by
    have hb := isIdeograph_bounds (h n hn)
    have hapart : n ≠ nonJoiner := by
      unfold nonJoiner
      omega
    have hjoining : n ≠ 0x200D := by omega
    simp [isJoiner, hapart, hjoining]
  have hhead : label.head?.any Text.isMark = false := by
    cases label with
    | nil => rfl
    | cons n label => exact isMark_ideograph (h n List.mem_cons_self)
  simp [isLabel, hhead, hjoiners, hl]

theorem readLabel?_ideographs (h : ∀ n ∈ label, isIdeograph n = true)
    (hl : label.length ≤ mostEncoded) : readLabel? label = some label := by
  have hallowed : label.any isDenied = false := by
    rw [List.any_eq_false]
    intro n hn
    simp [isDenied_ideograph (h n hn)]
  have hmark : codeMark.isPrefixOf label = false := by
    cases label with
    | nil => rfl
    | cons n label =>
      have hb := isIdeograph_bounds (h n List.mem_cons_self)
      have hx : (0x78 == n) = false := beq_eq_false_iff_ne.mpr (by omega)
      simp [codeMark, List.isPrefixOf, hx]
  simp [readLabel?, hallowed, hmark, Option.filter, isLabel_ideographs h hl]

theorem readName?_ideographs (h : ∀ n ∈ label, isIdeograph n = true)
    (hl : label.length ≤ mostEncoded) : readName? label = some [label] := by
  have hcomposed : Text.composed label = label :=
    Text.composed_inert fun n hn => Text.inert_of_ideograph (h n hn)
  have hdot : Text.dot ∉ label := fun hm => absurd (h _ hm) (by decide)
  have hclear : areClear [label] = true := by
    have hany : label.any makesRightward = false := by
      rw [List.any_eq_false]
      intro n hn
      simp [makesRightward_ideograph (h n hn)]
    simp [areClear, hany]
  rw [readName?_plain (fun n hn => plain_ideograph (h n hn)) hcomposed, splitOn_of_not_mem hdot]
  simp [readLabel?_ideographs h hl, hclear]

/-- The characters of a label. -/
def chars (label : Points) : List Char := label.map Char.ofNat

theorem map_toNat_chars (h : ∀ n ∈ label, isIdeograph n = true) :
    (chars label).map Char.toNat = label :=
  Punycode.map_toNat_ofNat fun n hn => (plain_ideograph (h n hn)).isScalar

theorem bounds_of_mem_chars (h : ∀ n ∈ label, isIdeograph n = true) {c : Char}
    (hc : c ∈ chars label) : 0x4E00 ≤ c.toNat := by
  have hn := List.mem_map_of_mem (f := Char.toNat) hc
  rw [map_toNat_chars h] at hn
  exact (isIdeograph_bounds (h _ hn)).1

theorem domainToAscii_ideographs (h : ∀ n ∈ label, isIdeograph n = true)
    (hl : label.length ≤ mostEncoded) :
    domainToAscii (unescape (chars label)) = some (sendLabel label) := by
  have hpercent : '%' ∉ chars label := fun hm => absurd (bounds_of_mem_chars h hm) (by decide)
  rw [domainToAscii, ofBytes_unescape hpercent, String.toList_ofList, map_toNat_chars h,
    readName?_ideographs h hl]
  rfl

theorem isRead_ideographs (h : ∀ n ∈ label, isIdeograph n = true)
    (hl : label.length ≤ mostEncoded) : IsRead label := by
  have hname : ∀ n ∈ label, n < 0x110000 := fun n hn => by
    have := isIdeograph_bounds (h n hn)
    omega
  exact (isRead_of_readName hname (readName?_ideographs h hl)).2.1 label (by simp)

theorem sendLabel_ideographs (h : ∀ n ∈ label, isIdeograph n = true) (hne : label ≠ []) :
    sendLabel label = 'x' :: 'n' :: '-' :: '-' :: Punycode.encode label := by
  have hascii : isAscii label = false := by
    obtain ⟨n, label, rfl⟩ := List.exists_cons_of_ne_nil hne
    have hb := isIdeograph_bounds (h n List.mem_cons_self)
    simp [isAscii, show ¬ n < 0x80 by omega]
  rw [sendLabel, hascii, if_neg (by decide)]

theorem splitOn_sendLabel (h : IsRead label) : splitOn '.' (sendLabel label) = [sendLabel label] :=
  splitOn_of_not_mem fun hm => (h.isSent hm).2 rfl

/-- Punycode behind its mark is no number. -/
theorem endsInNumber_code {name code : List Char} (hsplit : splitOn '.' name = [name])
    (hname : name = 'x' :: code) : Ipv4.endsInNumber name = false := by
  have hpart : Ipv4.part? name = none := by
    have hdigits : Ipv4.part? name = numeral? 10 ('x' :: code) := by rw [hname]; rfl
    rw [hdigits, numeral?, List.foldl_cons]
    -- no digit comes after the first letter
    exact List.foldl_fixed' (fun _ => rfl) code
  have hparts : Ipv4.parts name = [name] := by
    rw [Ipv4.parts, hsplit]
    simp [hname]
  have hdigit : name.all Char.isDigit = false := by
    rw [hname]
    rfl
  rw [Ipv4.endsInNumber, hparts]
  simp [hpart, hdigit]

/-- A label of ideographs is read as the host that it is sent as. -/
theorem asHost_chars (h : ∀ n ∈ label, isIdeograph n = true) (hl : label.length ≤ mostEncoded)
    (hne : label ≠ []) :
    HostText (chars label) ∧ asHost .internet (chars label) = .ok (.named (sendLabel label)) := by
  have hsend := sendLabel_ideographs h hne
  have hbeyond {c d : Char} (hc : c ∈ chars label) (hd : d.toNat < 0x4E00) : c ≠ d := by
    rintro rfl
    have := bounds_of_mem_chars h hc
    omega
  have hnil : chars label ≠ [] := by simpa [chars] using hne
  refine ⟨hostText_of_plain hnil (fun c hc => ?_) fun c hc => ?_, ?_⟩
  · have := bounds_of_mem_chars h hc
    simp only [isAround, Bool.or_eq_false_iff, decide_eq_false_iff_not]
    exact ⟨⟨⟨⟨⟨by omega, hbeyond hc (by decide)⟩, hbeyond hc (by decide)⟩,
      hbeyond hc (by decide)⟩, hbeyond hc (by decide)⟩, hbeyond hc (by decide)⟩
  · exact ⟨hbeyond hc (by decide), hbeyond hc (by decide), hbeyond hc (by decide)⟩
  · have hends := endsInNumber_code (splitOn_sendLabel (isRead_ideographs h hl)) hsend
    change Host.ofDomain (chars label) = _
    rw [Host.ofDomain.eq_def]
    split
    · next rest heq => exact absurd rfl (hbeyond (c := '[') (by rw [heq]; simp) (by decide))
    · rw [domainToAscii_ideographs h hl]
      split
      · next heq => cases heq
      · next heq =>
        rw [hsend] at heq
        cases heq
      · next name hname heq =>
        obtain rfl := Option.some.inj heq
        rw [hends]
        rfl

/-- If the ideographs are many and far apart, what they are sent as is not read. -/
theorem not_hasShortCodes (h : ∀ n ∈ label, isIdeograph n = true)
    (hl : label.length ≤ mostEncoded) (hmany : 703 ≤ label.length)
    (hfar : label.Pairwise fun a b => a + 26 ≤ b) : ¬ HasShortCodes (sendLabel label) := by
  have hne : label ≠ [] := by
    rintro rfl
    exact absurd hmany (by decide)
  have hlong := Punycode.length_encode hfar fun n hn => by
    have := isIdeograph_bounds (h n hn)
    omega
  intro hshort
  have hle := hshort (Punycode.encode label) (by
    rw [splitOn_sendLabel (isRead_ideographs h hl), sendLabel_ideographs h hne]
    exact List.mem_singleton.mpr rfl)
  unfold mostDigits at hle
  omega

/-! ## Hosts of ideographs -/

/-- The URL of a database at a host. -/
def ofHost (name : List Char) : Url where
  scheme := ['h', 't', 't', 'p', 's']
  authority := some ⟨[], [], some (.named name), none⟩
  path := .segments [['d']]
  query := none
  fragment := none

variable {name cs : List Char}

theorem carriesUser_ofHost : (ofHost name).carriesUser = true := rfl

theorem withoutUser_ofHost : (ofHost name).withoutUser = ofHost name := rfl

theorem kind_ofHost : (ofHost name).kind = .internet := rfl

theorem spelling_ofHost :
    (ofHost name).spelling cs none = "https://".toList ++ cs ++ "/d".toList := by
  simp [spelling, upToQuery, ofHost, portText, marked, Path.text]

theorem text_ofHost :
    (ofHost name).text = String.ofList ("https://".toList ++ name ++ "/d".toList) := by
  have ha : (ofHost name).authority = some ⟨[], [], some (.named name), none⟩ := rfl
  have h := toText_withoutUser ha
  rw [withoutUser_ofHost, Host.text, spelling_ofHost] at h
  rw [text, h]

theorem hasShortCodes_ofHost (h : (ofHost name).hasShortCodes) : HasShortCodes name :=
  h kind_ofHost _ rfl name rfl

theorem parse_ideographs (h : ∀ n ∈ label, isIdeograph n = true) (hl : label.length ≤ mostEncoded)
    (hne : label ≠ []) :
    parse (String.ofList ((ofHost (sendLabel label)).spelling (chars label) none)) =
      .ok (ofHost (sendLabel label)) := by
  obtain ⟨htext, hhost⟩ := asHost_chars h hl hne
  have hscheme : IsScheme ['h', 't', 't', 'p', 's'] :=
    ⟨⟨_, _, rfl, by decide⟩, List.all_eq_true.mp (by decide), by decide⟩
  have hsegment : IsSegment .internet ['d'] :=
    ⟨by simp [inPathSet, inFragmentSet, needsEscape], by simp [isSlash], by decide, by decide⟩
  have hspelled : Spelled (ofHost (sendLabel label)) (chars label) none [['d']] := by
    refine ⟨hscheme, (by decide : Kind.internet ≠ .file), htext, by simp [IsPort],
      ⟨rfl, fun s hs => ?_, by simp⟩, by simp [ofHost], by simp [ofHost]⟩
    obtain rfl := List.mem_singleton.mp hs
    exact hsegment
  rw [parse, String.toList_ofList, hspelled.parseChars_spelling, kind_ofHost, hhost]
  rfl

end ClusterOperator.Url
