import ClusterOperator.Proofs.Url.Percent
import ClusterOperator.Proofs.Url.Plain
import ClusterOperator.Proofs.Url.Separators
import ClusterOperator.Url.Domain

/-!
# Domain names, sent and read

A label that was read is of plain characters in composed form. As it is sent it is read again, if
its Punycode has no more digits than are decoded; so a name that was sent stands for itself.
-/

namespace ClusterOperator.Url

open Text (dot composed)

variable {label code name : Points} {labels : List Points} {n : Nat}

/-! ## What is read -/

/-- A label as it was read: it is sent as it is, or else can be encoded. -/
structure IsRead (label : Points) : Prop where
  plain : ∀ n ∈ label, Plain n
  allowed : ∀ n ∈ label, isDenied n = false
  whole : dot ∉ label
  composed : composed label = label
  fits : isLabel label = true
  unmarked : isAscii label = true → codeMark.isPrefixOf label = false

theorem isAscii_iff : isAscii label = true ↔ ∀ n ∈ label, n < 0x80 := by
  simp [isAscii]

theorem isRead_of_decode (hplain : ∀ n ∈ code, n < 0x80) (hdot : dot ∉ code)
    (h : decodeLabel? code = some label) (hfits : isLabel label = true) : IsRead label := by
  unfold decodeLabel? at h
  split at h
  · cases h
  next hcode =>
  simp only [not_or, Bool.not_eq_true'] at hcode
  split at h
  · cases h
  next decoded hd =>
  split at h
  · next hok =>
    obtain rfl := Option.some.inj h
    simp only [Bool.and_eq_true, List.all_eq_true, Bool.not_eq_true', decide_eq_true_eq] at hok
    have hmem {n : Nat} (hn : n ∈ decoded) : n ∈ code ∨ (0x80 ≤ n ∧ n < 0x110000) := by
      rcases Punycode.mem_decode? hd hn with ⟨c, hc, rfl⟩ | hn
      · obtain ⟨m, hm, rfl⟩ := List.mem_map.mp hc
        rw [Punycode.toNat_ofNat (Punycode.isScalar_of_ascii (hplain m hm))]
        exact .inl hm
      · exact .inr hn
    have hlast : (code.map Char.ofNat).getLast? ≠ some '-' := by
      intro hl
      rw [List.getLast?_map, Option.map_eq_some_iff] at hl
      obtain ⟨m, hm, hc⟩ := hl
      have hm' := Punycode.toNat_ofNat
        (Punycode.isScalar_of_ascii (hplain m (List.mem_of_getLast? hm)))
      rw [hc] at hm'
      exact hcode.1 (hm' ▸ hm)
    obtain ⟨m, hm, hbeyond⟩ := Punycode.exists_decode? hd (by simpa using hcode.2.1) hlast
    refine ⟨fun n hn => ⟨?_, (hok.1 n hn).1⟩, fun n hn => (hok.1 n hn).2, fun hm => ?_, hok.2,
      hfits, fun ha => ?_⟩
    · rcases hmem hn with hn | hn
      · have := hplain n hn
        omega
      · exact hn.2
    · rcases hmem hm with hm | hm
      · exact hdot hm
      · exact absurd hm.1 (by decide)
    · have := isAscii_iff.mp ha m hm
      omega
  · cases h

theorem isRead_of_readLabel {spelled : Points} (hplain : ∀ n ∈ spelled, Plain n)
    (hdot : dot ∉ spelled) (hcomposed : composed spelled = spelled)
    (h : readLabel? spelled = some label) : IsRead label := by
  unfold readLabel? at h
  split at h
  · cases h
  next hdenied =>
  obtain ⟨hread, hfits⟩ := Option.filter_eq_some_iff.mp h
  split at hread
  · next hmark =>
    have hascii : ∀ n ∈ spelled.drop 4, n < 0x80 := by
      unfold decodeLabel? at hread
      split at hread
      · cases hread
      · next hcode =>
        simp only [not_or, Bool.not_eq_true', Bool.not_eq_false] at hcode
        exact isAscii_iff.mp hcode.2.2.2
    exact isRead_of_decode hascii (fun hm => hdot (List.mem_of_mem_drop hm)) hread hfits
  · next hmark =>
    obtain rfl := Option.some.inj hread
    refine ⟨hplain, fun n hn => ?_, hdot, hcomposed, hfits, fun _ => Bool.eq_false_iff.mpr hmark⟩
    simpa using fun hd => hdenied (List.any_eq_true.mpr ⟨n, hn, hd⟩)

/-- What stands between the dots of a composed name is composed. -/
theorem composed_of_mem_splitOn (hc : composed name = name) :
    ∀ part ∈ splitOn dot name, composed part = part := by
  induction hlen : name.length using Nat.strongRecOn generalizing name with
  | ind k ih =>
    intro part hpart
    by_cases hdot : dot ∈ name
    · obtain ⟨us, vs, rfl, hus⟩ := List.eq_append_cons_of_mem hdot
      obtain ⟨hu, hv⟩ := Text.composed_of_dot hus hc
      rw [splitOn_part hus] at hpart
      rcases List.mem_cons.mp hpart with rfl | hpart
      · exact hu
      · exact ih vs.length (by simp at hlen; omega) hv rfl part hpart
    · rw [splitOn_of_not_mem hdot] at hpart
      rw [List.mem_singleton.mp hpart]
      exact hc

/-- The labels of a name that is read. -/
theorem isRead_of_readName (hname : ∀ n ∈ name, n < 0x110000) (h : readName? name = some labels) :
    labels ≠ [] ∧ (∀ label ∈ labels, IsRead label) ∧ areClear labels = true := by
  simp only [readName?, bind, Option.bind_eq_some_iff] at h
  obtain ⟨spelled, hspelled, labels', hlabels, h⟩ := h
  split at h
  · next hclear =>
    obtain rfl := Option.some.inj h
    have hplain : ∀ n ∈ composed spelled.flatten, Plain n := by
      refine closed_plain.forall_mem fun n hn => ?_
      obtain ⟨values, hv, hn⟩ := List.mem_flatten.mp hn
      obtain ⟨m, hm, hs⟩ := exists_of_mapM hspelled hv
      exact plain_of_spelling (hname m hm) hs n hn
    refine ⟨?_, fun label hlabel => ?_, hclear⟩
    · rintro rfl
      have hlen := (mapM_eq_some.mp hlabels).length_eq
      exact splitOn_ne_nil _ _ (List.length_eq_zero_iff.mp hlen)
    · obtain ⟨part, hpart, hread⟩ := exists_of_mapM hlabels hlabel
      exact isRead_of_readLabel (fun n hn => hplain n (mem_of_mem_splitOn hpart hn))
        (not_mem_of_mem_splitOn hpart)
        (composed_of_mem_splitOn (Text.composed_composed _) part hpart) hread
  · cases h

/-- A name of plain characters in composed form is read label by label. -/
theorem readName?_plain (hplain : ∀ n ∈ name, Plain n) (hcomposed : composed name = name) :
    readName? name = ((splitOn dot name).mapM readLabel?).bind fun labels =>
      if areClear labels then some labels else none := by
  have hspelled : name.mapM spelling? = some (name.map ([·])) := by
    rw [mapM_eq_some, List.forall₂_map_right_iff, List.forall₂_same]
    exact fun n hn => (hplain n hn).spelling_eq
  have hflat : (name.map ([·])).flatten = name := by
    rw [← List.flatMap_def, List.flatMap_singleton']
  simp only [readName?, hspelled, bind, Option.bind_some, hflat, hcomposed]
  rfl

/-! ## What is sent -/

/-- A character that a name is sent in. -/
structure IsSent (c : Char) : Prop where
  ascii : c.toNat < 0x80
  plain : isPlain c.toNat = true
  allowed : isDenied c.toNat = false

theorem isSent_of_codeDigit {c : Char} (h : Punycode.isCodeDigit c = true) :
    IsSent c ∧ c ≠ '.' := by
  have hlt : c.toNat < 0x80 := by
    simp only [Punycode.isCodeDigit, Bool.or_eq_true, Bool.and_eq_true, decide_eq_true_eq,
      Char.le_def, UInt32.le_iff_toNat_le] at h
    change c.val.toNat < 0x80
    have : ('z' : Char).val.toNat = 122 := rfl
    have : ('9' : Char).val.toNat = 57 := rfl
    omega
  have hc : isPlain c.toNat = true ∧ isDenied c.toNat = false ∧ c ≠ '.' :=
    forall_ascii (P := fun c => Punycode.isCodeDigit c = true →
      isPlain c.toNat = true ∧ isDenied c.toNat = false ∧ c ≠ '.') (by decide +kernel) hlt h
  exact ⟨⟨hlt, hc.1, hc.2.1⟩, hc.2.2⟩

theorem IsRead.isSent_ofNat (h : IsRead label) (hn : n ∈ label) (ha : n < 0x80) :
    IsSent (Char.ofNat n) ∧ Char.ofNat n ≠ '.' := by
  have hc := Punycode.toNat_ofNat (Punycode.isScalar_of_ascii ha)
  refine ⟨⟨?_, ?_, ?_⟩, fun hdot => h.whole ?_⟩
  · rw [hc]
    exact ha
  · rw [hc]
    exact (h.plain n hn).2
  · rw [hc]
    exact h.allowed n hn
  · rw [hdot] at hc
    rw [← hc] at hn
    exact hn

theorem IsRead.length_le (h : IsRead label) (ha : isAscii label = false) : label.length ≤ 1000 := by
  have hfits := h.fits
  simp only [isLabel, ha, Bool.false_or, Bool.and_eq_true, decide_eq_true_eq] at hfits
  exact hfits.2

theorem IsRead.isSent (h : IsRead label) {c : Char} (hc : c ∈ sendLabel label) :
    IsSent c ∧ c ≠ '.' := by
  unfold sendLabel at hc
  split at hc
  · next ha =>
    obtain ⟨n, hn, rfl⟩ := List.mem_map.mp hc
    exact h.isSent_ofNat hn (isAscii_iff.mp ha n hn)
  · next ha =>
    have mark : ∀ c ∈ ['x', 'n', '-'], Char.toNat c < 0x80 ∧ isPlain c.toNat = true ∧
        isDenied c.toNat = false ∧ c ≠ '.' := List.all_iff_forall_prop.mp (by decide)
    have hmark {c : Char} (hc : c ∈ ['x', 'n', '-']) : IsSent c ∧ c ≠ '.' := by
      obtain ⟨h₁, h₂, h₃, h₄⟩ := mark c hc
      exact ⟨⟨h₁, h₂, h₃⟩, h₄⟩
    simp only [List.mem_cons] at hc
    rcases hc with rfl | rfl | rfl | rfl | hc
    · exact hmark (by simp)
    · exact hmark (by simp)
    · exact hmark (by simp)
    · exact hmark (by simp)
    · have hl := h.length_le (by simpa using ha)
      rcases Punycode.mem_encode hl (fun n hn => (h.plain n hn).isScalar) hc with
        hc | rfl | ⟨n, hn, hlt, rfl⟩
      · exact isSent_of_codeDigit hc
      · exact hmark (by simp)
      · exact h.isSent_ofNat hn hlt

theorem decodeLabel?_encode (h : IsRead label) (ha : isAscii label = false)
    (hshort : (Punycode.encode label).length ≤ mostDigits) :
    decodeLabel? ((Punycode.encode label).map Char.toNat) = some label := by
  have hl := h.length_le ha
  have hs : ∀ n ∈ label, Punycode.Decoder.IsScalar n := fun n hn => (h.plain n hn).isScalar
  have hbeyond : ∃ n ∈ label, 0x80 ≤ n := by simpa [isAscii] using ha
  obtain ⟨last, hlast, hdigit⟩ := Punycode.getLast?_encode hl hs hbeyond
  have hascii : isAscii ((Punycode.encode label).map Char.toNat) = true := by
    refine isAscii_iff.mpr fun n hn => ?_
    obtain ⟨c, hc, rfl⟩ := List.mem_map.mp hn
    have hsent : c ∈ sendLabel label := by simp [sendLabel, ha, hc]
    exact (h.isSent hsent).1.ascii
  have hback : ((Punycode.encode label).map Char.toNat).map Char.ofNat = Punycode.encode label := by
    simp [Function.comp_def]
  have hcode : ¬ (((Punycode.encode label).map Char.toNat).getLast? = some '-'.toNat ∨
      ((Punycode.encode label).map Char.toNat).isEmpty ∨
      mostDigits < ((Punycode.encode label).map Char.toNat).length ∨
      !isAscii ((Punycode.encode label).map Char.toNat)) := by
    have hne : ((Punycode.encode label).map Char.toNat).isEmpty = false := by
      cases he : Punycode.encode label with
      | nil => simp [he] at hlast
      | cons c cs => rfl
    have hhyphen : last.toNat ≠ '-'.toNat := fun he =>
      Punycode.isCodeDigit_ne_hyphen hdigit (Char.toNat_inj.mp he)
    rw [List.getLast?_map, hlast, hascii, hne, List.length_map]
    simp only [Option.map_some, Option.some.injEq, hhyphen, Bool.not_true, Bool.false_eq_true,
      false_or, or_false, Nat.not_lt]
    exact hshort
  have hok : (label.all (fun n => isPlain n && !isDenied n) && composed label = label) = true := by
    simp only [Bool.and_eq_true, List.all_eq_true, Bool.not_eq_true', decide_eq_true_eq]
    exact ⟨fun n hn => ⟨(h.plain n hn).2, h.allowed n hn⟩, h.composed⟩
  rw [decodeLabel?, if_neg hcode, hback, Punycode.decode?_encode hl hs]
  simp only [hok, if_true]

/-- A label that is sent is read again, if it takes no more digits than are read. -/
theorem readLabel?_sendLabel (h : IsRead label)
    (hshort : isAscii label = false → (Punycode.encode label).length ≤ mostDigits) :
    readLabel? ((sendLabel label).map Char.toNat) = some label := by
  have hallowed : ((sendLabel label).map Char.toNat).any isDenied = false := by
    rw [List.any_eq_false]
    intro n hn
    obtain ⟨c, hc, rfl⟩ := List.mem_map.mp hn
    simpa using (h.isSent hc).1.allowed
  rw [readLabel?, hallowed]
  simp only [Bool.false_eq_true, if_false]
  cases ha : isAscii label with
  | true =>
    have hsame : (sendLabel label).map Char.toNat = label := by
      rw [sendLabel, if_pos ha]
      exact Punycode.map_toNat_ofNat fun n hn => (h.plain n hn).isScalar
    rw [hsame, h.unmarked ha]
    simp [Option.filter, h.fits]
  | false =>
    have hmarked : (sendLabel label).map Char.toNat =
        codeMark ++ (Punycode.encode label).map Char.toNat := by
      simp [sendLabel, ha, codeMark]
    have hmark :
        codeMark.isPrefixOf (codeMark ++ (Punycode.encode label).map Char.toNat) = true := by simp
    have hrest : (codeMark ++ (Punycode.encode label).map Char.toNat).drop 4 =
        (Punycode.encode label).map Char.toNat := rfl
    rw [hmarked, hmark, if_pos rfl, hrest, decodeLabel?_encode h ha (hshort ha)]
    simp [Option.filter, h.fits]

/-- More digits than are decoded are not read. -/
theorem readLabel?_of_long {code : Points} (h : mostDigits < code.length) :
    readLabel? (codeMark ++ code) = none := by
  have hdrop : (codeMark ++ code).drop 4 = code := rfl
  have hdecode : decodeLabel? code = none := by
    rw [decodeLabel?, if_pos (.inr (.inr (.inl h)))]
  unfold readLabel?
  split
  · rfl
  · rw [if_pos (by simp), hdrop, hdecode]
    rfl

/-! ## Names -/

/-- No label of a name is in more digits than are read. -/
def HasShortCodes (name : List Char) : Prop :=
  ∀ code, 'x' :: 'n' :: '-' :: '-' :: code ∈ splitOn '.' name → code.length ≤ mostDigits

/-- A name as it is sent, from labels that were read. -/
structure Sent (labels : List Points) (name : List Char) : Prop where
  ne_nil : labels ≠ []
  isRead : ∀ label ∈ labels, IsRead label
  clear : areClear labels = true
  eq : name = joinWith ['.'] (labels.map sendLabel)

theorem sent_of_domainToAscii {bytes : List UInt8} {name : List Char}
    (h : domainToAscii bytes = some name) : ∃ labels, Sent labels name := by
  obtain ⟨labels, hl, rfl⟩ := Option.map_eq_some_iff.mp h
  have hname : ∀ n ∈ (Text.ofBytes bytes).toList.map Char.toNat, n < 0x110000 := by
    intro n hn
    obtain ⟨c, -, rfl⟩ := List.mem_map.mp hn
    have hc : c.toNat < 0xD800 ∨ 0xDFFF < c.toNat ∧ c.toNat < 0x110000 := c.valid
    omega
  obtain ⟨hne, hread, hclear⟩ := isRead_of_readName hname hl
  exact ⟨labels, hne, hread, hclear, rfl⟩

namespace Sent

variable {name : List Char}

theorem isSent (h : Sent labels name) {c : Char} (hc : c ∈ name) : IsSent c := by
  have hdot : IsSent '.' := ⟨by decide, by decide, by decide⟩
  rw [h.eq] at hc
  rcases mem_joinWith hc with hc | ⟨p, hp, hc⟩
  · rw [List.mem_singleton.mp hc]
    exact hdot
  · obtain ⟨label, hl, rfl⟩ := List.mem_map.mp hp
    exact ((h.isRead label hl).isSent hc).1

theorem splitOn_eq (h : Sent labels name) : splitOn '.' name = labels.map sendLabel := by
  rw [h.eq]
  refine splitOn_joinWith (by simpa using h.ne_nil) fun p hp hdot => ?_
  obtain ⟨label, hl, rfl⟩ := List.mem_map.mp hp
  exact ((h.isRead label hl).isSent hdot).2 rfl

theorem length_le (h : Sent labels name) (hshort : HasShortCodes name) {label : Points}
    (hl : label ∈ labels) (ha : isAscii label = false) :
    (Punycode.encode label).length ≤ mostDigits := by
  refine hshort _ ?_
  rw [h.splitOn_eq]
  exact List.mem_map.mpr ⟨label, hl, by simp [sendLabel, ha]⟩

/-- A name that is sent is read label by label. -/
theorem readName?_eq_bind (h : Sent labels name) :
    readName? (name.map Char.toNat) =
      ((labels.map fun label => (sendLabel label).map Char.toNat).mapM readLabel?).bind
        fun labels => if areClear labels then some labels else none := by
  have hplain : ∀ n ∈ name.map Char.toNat, Plain n := by
    intro n hn
    obtain ⟨c, hc, rfl⟩ := List.mem_map.mp hn
    have hs := h.isSent hc
    have := hs.ascii
    exact ⟨by omega, hs.plain⟩
  have hcomposed : composed (name.map Char.toNat) = name.map Char.toNat := by
    refine Text.composed_inert fun n hn => ?_
    obtain ⟨c, hc, rfl⟩ := List.mem_map.mp hn
    exact Text.inert_of_ascii (h.isSent hc).ascii
  have hsplit : splitOn dot (name.map Char.toNat) =
      labels.map fun label => (sendLabel label).map Char.toNat := by
    change splitOn '.'.toNat (name.map Char.toNat) = _
    rw [splitOn_map fun c _ hc => Char.toNat_inj.mp hc, h.splitOn_eq, List.map_map]
    rfl
  rw [readName?_plain hplain hcomposed, hsplit]

theorem readName?_eq (h : Sent labels name) (hshort : HasShortCodes name) :
    readName? (name.map Char.toNat) = some labels := by
  have hread : (labels.map fun label => (sendLabel label).map Char.toNat).mapM readLabel? =
      some labels := by
    rw [mapM_eq_some, List.forall₂_map_left_iff, List.forall₂_same]
    exact fun label hl => readLabel?_sendLabel (h.isRead label hl) (h.length_le hshort hl)
  simp only [h.readName?_eq_bind, hread, Option.bind_some, h.clear, if_true]

theorem readName?_eq_none (h : Sent labels name) (hlong : ¬ HasShortCodes name) :
    readName? (name.map Char.toNat) = none := by
  simp only [HasShortCodes, not_forall, Nat.not_le] at hlong
  obtain ⟨code, hcode, hlong⟩ := hlong
  rw [h.splitOn_eq] at hcode
  obtain ⟨label, hl, hsent⟩ := List.mem_map.mp hcode
  have hnone : readLabel? ((sendLabel label).map Char.toNat) = none := by
    rw [hsent]
    exact readLabel?_of_long (by simpa using hlong)
  rw [h.readName?_eq_bind, mapM_eq_none (List.mem_map.mpr ⟨label, hl, rfl⟩) hnone]
  rfl

theorem domainToAscii_unescape (h : Sent labels name) :
    domainToAscii (unescape name) = (readName? (name.map Char.toNat)).map fun labels =>
      joinWith ['.'] (labels.map sendLabel) := by
  have hpercent : '%' ∉ name := fun hm => by
    have hp := (h.isSent hm).allowed
    revert hp
    decide
  rw [domainToAscii, ofBytes_unescape hpercent, String.toList_ofList]

/-- A name that is sent is read as the name that it is. -/
theorem domainToAscii_eq (h : Sent labels name) (hshort : HasShortCodes name) :
    domainToAscii (unescape name) = some name := by
  rw [h.domainToAscii_unescape, h.readName?_eq hshort]
  exact congrArg some h.eq.symm

/-- With a label that is too long it is not read. -/
theorem domainToAscii_eq_none (h : Sent labels name) (hlong : ¬ HasShortCodes name) :
    domainToAscii (unescape name) = none := by
  rw [h.domainToAscii_unescape, h.readName?_eq_none hlong]
  rfl

end Sent

end ClusterOperator.Url
