import ClusterOperator.Proofs.Url.Address
import ClusterOperator.Proofs.Url.Domain
import ClusterOperator.Url

/-!
# Hosts, written and read

A host that was read is written in characters that do not end it, and is read from them again.
-/

namespace ClusterOperator.Url

variable {cs name : List Char} {host : Host} {c : Char} {labels : List Points} {label : Points}

/-! ## The text of a host -/

/-- Characters that stand around a host, and that none has. -/
def isAround (c : Char) : Bool :=
  c.toNat ≤ 0x20 || c = '#' || c = '?' || c = '/' || c = '\\' || c = '@'

/-- A text that stands where a host is looked for. -/
structure HostText (cs : List Char) : Prop where
  ne_nil : cs ≠ []
  inside : ∀ c ∈ cs, isAround c = false
  whole : ∀ rest, (∀ c ∈ rest.head?, c = ':') → hostLength false (cs ++ rest) = cs.length

theorem hostLength_cons (inBrackets : Bool) (hc : c = ':' → inBrackets = true) (cs : List Char) :
    hostLength inBrackets (c :: cs) =
      hostLength (if c = '[' then true else if c = ']' then false else inBrackets) cs + 1 := by
  rw [hostLength]
  have h : ¬ (c = ':' && !inBrackets) = true := by
    rw [Bool.and_eq_true, decide_eq_true_eq, Bool.not_eq_true']
    rintro ⟨rfl, hb⟩
    rw [hc rfl] at hb
    cases hb
  rw [if_neg h]

theorem hostLength_within {inBrackets : Bool}
    (h : ∀ c ∈ cs, (c = ':' → inBrackets = true) ∧ c ≠ '[' ∧ c ≠ ']') (rest : List Char) :
    hostLength inBrackets (cs ++ rest) = cs.length + hostLength inBrackets rest := by
  induction cs with
  | nil => simp
  | cons c cs ih =>
    obtain ⟨⟨hcolon, hopen, hclose⟩, hcs⟩ := List.forall_mem_cons.mp h
    rw [List.cons_append, hostLength_cons inBrackets hcolon, if_neg hopen, if_neg hclose, ih hcs,
      List.length_cons]
    omega

theorem hostLength_rest {rest : List Char} (h : ∀ c ∈ rest.head?, c = ':') :
    hostLength false rest = 0 := by
  cases rest with
  | nil => rfl
  | cons c rest =>
    obtain rfl := h c rfl
    rfl

theorem hostText_of_plain (hne : cs ≠ []) (hin : ∀ c ∈ cs, isAround c = false)
    (h : ∀ c ∈ cs, c ≠ ':' ∧ c ≠ '[' ∧ c ≠ ']') : HostText cs where
  ne_nil := hne
  inside := hin
  whole rest hr := by
    rw [hostLength_within fun c hc => ⟨fun he => absurd he (h c hc).1, (h c hc).2⟩,
      hostLength_rest hr]
    rfl

theorem hostText_of_bracketed (hin : ∀ c ∈ cs, isAround c = false)
    (h : ∀ c ∈ cs, c ≠ '[' ∧ c ≠ ']') : HostText ('[' :: cs ++ [']']) where
  ne_nil := List.cons_ne_nil _ _
  inside c hc := by
    simp only [List.cons_append, List.mem_cons, List.mem_append, List.not_mem_nil, or_false] at hc
    rcases hc with rfl | hc | rfl
    · decide
    · exact hin c hc
    · decide
  whole rest hr := by
    rw [List.cons_append, List.cons_append, List.append_assoc, hostLength_cons false (by decide),
      if_pos rfl, hostLength_within fun c hc => ⟨fun _ => rfl, h c hc⟩, List.singleton_append,
      hostLength_cons true (by decide), if_neg (by decide), if_pos rfl, hostLength_rest hr]
    simp

/-! ## Numeric hosts -/

theorem mem_ipv6Text {groups : List Nat} (h : c ∈ Ipv6.text groups) :
    c = ':' ∨ ∃ d < 16, c = Nat.digitChar d := by
  have hgroups {gs : List Nat} (h : c ∈ Ipv6.groupsText gs) :
      c = ':' ∨ ∃ d < 16, c = Nat.digitChar d := by
    rcases mem_joinWith h with h | ⟨p, hp, hc⟩
    · exact .inl (List.mem_singleton.mp h)
    · obtain ⟨g, -, rfl⟩ := List.mem_map.mp hp
      exact .inr (mem_toDigits (by decide) hc)
  unfold Ipv6.text at h
  simp only at h
  split at h
  · exact hgroups h
  · simp only [List.mem_append, List.mem_cons, List.not_mem_nil, or_false, or_self] at h
    rcases h with (h | h) | h
    · exact hgroups h
    · exact .inl h
    · exact hgroups h

theorem hostText_ipv6 (groups : List Nat) : HostText (Host.ipv6 groups).text := by
  have all : ∀ d : Fin 16, isAround (Nat.digitChar d.val) = false ∧ Nat.digitChar d.val ≠ '[' ∧
      Nat.digitChar d.val ≠ ']' := by decide
  have hmem {c : Char} (h : c ∈ Ipv6.text groups) : isAround c = false ∧ c ≠ '[' ∧ c ≠ ']' := by
    rcases mem_ipv6Text h with rfl | ⟨d, hd, rfl⟩
    · decide
    · exact all ⟨d, hd⟩
  exact hostText_of_bracketed (fun c hc => (hmem hc).1) fun c hc => (hmem hc).2

theorem ofBracketed_ok (h : Host.ofBracketed cs = .ok host) :
    ∃ groups, host = .ipv6 groups ∧ groups.length = 8 ∧ Ipv6.Fits groups := by
  unfold Host.ofBracketed at h
  split at h
  · split at h
    · next groups hg =>
      obtain ⟨hlen, hfits⟩ := Ipv6.fits_parse hg
      exact ⟨groups, (Except.ok.inj h).symm, hlen, hfits⟩
    · cases h
  · cases h

theorem ofBracketed_text {groups : List Nat} (hlen : groups.length = 8) (hfits : Ipv6.Fits groups) :
    Host.ofBracketed (Ipv6.text groups ++ [']']) = .ok (.ipv6 groups) := by
  rw [Host.ofBracketed, List.getLast?_concat, List.dropLast_concat, Ipv6.parse?_text hlen hfits]
  rfl

/-! ## Hosts without meaning -/

/-- A host that was kept as it is is read again from its text. -/
theorem ofOpaque_ok (h : Host.ofOpaque cs = .ok host) (hne : cs ≠ []) :
    HostText host.text ∧ Host.ofOpaque host.text = .ok host := by
  unfold Host.ofOpaque at h
  split at h
  · obtain ⟨groups, rfl, hlen, hfits⟩ := ofBracketed_ok h
    exact ⟨hostText_ipv6 groups, ofBracketed_text hlen hfits⟩
  · next hopen =>
    split at h
    · cases h
    · next hallowed =>
      obtain rfl := Except.ok.inj h
      have hescape : ∀ c ∈ escapeChars, isAround c = false ∧ Host.isForbidden c = false :=
        List.all_iff_forall_prop.mp (by decide)
      have hmem {c : Char} (hc : c ∈ escape needsEscape cs) :
          isAround c = false ∧ Host.isForbidden c = false := by
        rcases mem_escape hc with ⟨hc, hplain⟩ | hc
        · have hf : Host.isForbidden c = false := by
            simpa using fun hf => hallowed (List.any_eq_true.mpr ⟨c, hc, hf⟩)
          refine ⟨?_, hf⟩
          simp only [Host.isForbidden, Bool.or_eq_false_iff, decide_eq_false_iff_not] at hf
          simp only [needsEscape, Bool.or_eq_false_iff, decide_eq_false_iff_not, Nat.not_lt]
            at hplain
          have hblank : ¬ c.toNat ≤ 0x20 := fun hle => by
            have : c.toNat = ' '.toNat := by
              change c.toNat = 32
              omega
            exact hf.1.1.1.1.1.1.1.1.1.1.1.1.2 (Char.toNat_inj.mp this)
          simp [isAround, hblank, hf]
        · exact hescape c hc
      have hmarks {c : Char} (hc : c ∈ escape needsEscape cs) : c ≠ ':' ∧ c ≠ '[' ∧ c ≠ ']' := by
        have hf := (hmem hc).2
        simp only [Host.isForbidden, Bool.or_eq_false_iff, decide_eq_false_iff_not] at hf
        simp [hf]
      refine ⟨hostText_of_plain (fun he => hne (escape_eq_nil.mp he)) (fun c hc => (hmem hc).1)
        fun c hc => hmarks hc, ?_⟩
      rw [Host.text, Host.ofOpaque.eq_def]
      split
      · next heq => exact absurd rfl (hmarks (c := '[') (by rw [heq]; simp)).2.1
      · have hany : (escape needsEscape cs).any Host.isForbidden = false := by
          rw [List.any_eq_false]
          intro c hc
          simpa using (hmem hc).2
        rw [hany, sparesEscapes_needsEscape.escape_escape]
        rfl

/-! ## Domains -/

theorem hostText_of_sent (h : Sent labels name) (hne : name ≠ []) : HostText name := by
  have hmem {c : Char} (hc : c ∈ name) : isAround c = false ∧ c ≠ ':' ∧ c ≠ '[' ∧ c ≠ ']' := by
    have hd := (h.isSent hc).allowed
    have hnot {d : Char} (h : isDenied d.toNat = true) : c ≠ d := by
      rintro rfl
      rw [hd] at h
      cases h
    have hblank : ¬ c.toNat ≤ 0x20 := fun hle => by simp [isDenied, hle] at hd
    refine ⟨?_, hnot (by decide), hnot (by decide), hnot (by decide)⟩
    simp only [isAround, Bool.or_eq_false_iff, decide_eq_false_iff_not]
    exact ⟨⟨⟨⟨⟨hblank, hnot (by decide)⟩, hnot (by decide)⟩, hnot (by decide)⟩, hnot (by decide)⟩,
      hnot (by decide)⟩
  exact hostText_of_plain hne (fun c hc => (hmem hc).1) fun c hc => (hmem hc).2

theorem ofDomain_eq (h : Sent labels name) :
    Host.ofDomain name =
      match domainToAscii (unescape name) with
      | none => .error .badDomain
      | some [] => .error .emptyHost
      | some name =>
        if Ipv4.endsInNumber name then
          match Ipv4.parse? name with
          | some address => .ok (.ipv4 address)
          | none => .error .badIpv4
        else .ok (.named name) := by
  rw [Host.ofDomain.eq_def]
  split
  · have hopen := (h.isSent (List.mem_cons_self)).allowed
    exact absurd hopen (by decide)
  · rfl

theorem ofDomain_of_sent (h : Sent labels name) (hne : name ≠ []) (hshort : HasShortCodes name) :
    Host.ofDomain name =
      if Ipv4.endsInNumber name then
        match Ipv4.parse? name with
        | some address => .ok (.ipv4 address)
        | none => .error .badIpv4
      else .ok (.named name) := by
  rw [ofDomain_eq h, h.domainToAscii_eq hshort]
  obtain ⟨c, cs, rfl⟩ := List.exists_cons_of_ne_nil hne
  rfl

theorem joinersFit_of_not_joiner {before : List Nat} (h : ∀ n ∈ label, isJoiner n = false) :
    joinersFit before label = true := by
  induction label generalizing before with
  | nil => rfl
  | cons n label ih =>
    obtain ⟨hn, hlabel⟩ := List.forall_mem_cons.mp h
    simp [joinersFit, hn, ih hlabel]

theorem isLabel_of_ascii (h : isAscii label = true) : isLabel label = true := by
  have hlt := isAscii_iff.mp h
  have hjoiners : joinersFit [] label = true := by
    refine joinersFit_of_not_joiner fun n hn => ?_
    have hn := hlt n hn
    have hapart : n ≠ nonJoiner := fun he => absurd (he ▸ hn) (by decide)
    have hjoining : n ≠ 0x200D := by omega
    simp [isJoiner, hapart, hjoining]
  have hmark : label.head?.any Text.isMark = false := by
    cases label with
    | nil => rfl
    | cons n label =>
      have := hlt n List.mem_cons_self
      simp [Text.isMark, show ¬ 0x300 ≤ n by omega]
  simp [isLabel, hmark, hjoiners, h]

/-- A label in characters that a name is sent in. -/
theorem isRead_of_isSent (h : ∀ c ∈ cs, IsSent c ∧ c ≠ '.')
    (hmark : codeMark.isPrefixOf (cs.map Char.toNat) = false) : IsRead (cs.map Char.toNat) := by
  have hmem {n : Nat} (hn : n ∈ cs.map Char.toNat) : ∃ c, n = c.toNat ∧ IsSent c ∧ c ≠ '.' := by
    obtain ⟨c, hc, rfl⟩ := List.mem_map.mp hn
    exact ⟨c, rfl, h c hc⟩
  have hascii : ∀ n ∈ cs.map Char.toNat, n < 0x80 := by
    intro n hn
    obtain ⟨c, rfl, hs, -⟩ := hmem hn
    exact hs.ascii
  constructor
  · intro n hn
    obtain ⟨c, rfl, hs, -⟩ := hmem hn
    have := hs.ascii
    exact ⟨by omega, hs.plain⟩
  · intro n hn
    obtain ⟨c, rfl, hs, -⟩ := hmem hn
    exact hs.allowed
  · intro hdot
    obtain ⟨c, hc, -, hne⟩ := hmem hdot
    exact hne (Char.toNat_inj.mp hc.symm)
  · exact Text.composed_inert fun n hn => Text.inert_of_ascii (hascii n hn)
  · exact isLabel_of_ascii (isAscii_iff.mpr hascii)
  · exact fun _ => hmark

theorem toNat_lt_of_isDigit (h : c.isDigit = true) : c.toNat < 0x80 := by
  simp only [Char.isDigit, Bool.and_eq_true, decide_eq_true_eq, ge_iff_le,
    UInt32.le_iff_toNat_le] at h
  have hc : c.toNat = c.val.toNat := rfl
  have h9 : ('9' : Char).val.toNat = 57 := rfl
  omega

/-- The digits of a byte are a label. -/
theorem isRead_digits (b : Nat) : IsRead ((Ipv4.byteText b).map Char.toNat) := by
  have hdigit {c : Char} (h : c.isDigit = true) :
      isPlain c.toNat = true ∧ isDenied c.toNat = false ∧ c ≠ '.' ∧ c ≠ 'x' :=
    forall_ascii (P := fun c => c.isDigit = true →
      isPlain c.toNat = true ∧ isDenied c.toNat = false ∧ c ≠ '.' ∧ c ≠ 'x') (by decide)
      (toNat_lt_of_isDigit h) h
  have hall : ∀ c ∈ Ipv4.byteText b, c.isDigit = true := Text.isDigit_toDigits b
  refine isRead_of_isSent (fun c hc => ?_) ?_
  · obtain ⟨hp, hd, hdot, -⟩ := hdigit (hall c hc)
    exact ⟨⟨toNat_lt_of_isDigit (hall c hc), hp, hd⟩, hdot⟩
  · cases hb : Ipv4.byteText b with
    | nil => rfl
    | cons c cs =>
      have hx : c.toNat ≠ 'x'.toNat := fun he =>
        (hdigit (hall c (by simp [hb]))).2.2.2 (Char.toNat_inj.mp he)
      have hne : (0x78 == c.toNat) = false := beq_eq_false_iff_ne.mpr (Ne.symm hx)
      simp [codeMark, List.isPrefixOf, hne]

theorem sent_ipv4 (address : Nat) :
    Sent ((Ipv4.bytes address).map fun b => (Ipv4.byteText b).map Char.toNat)
      (Ipv4.text address) where
  ne_nil := by simp [Ipv4.bytes]
  isRead label hl := by
    obtain ⟨b, -, rfl⟩ := List.mem_map.mp hl
    exact isRead_digits b
  clear := by
    have hleft : ∀ label ∈ (Ipv4.bytes address).map fun b => (Ipv4.byteText b).map Char.toNat,
        label.any makesRightward = false := by
      intro label hl
      obtain ⟨b, -, rfl⟩ := List.mem_map.mp hl
      rw [List.any_eq_false]
      intro n hn
      obtain ⟨c, hc, rfl⟩ := List.mem_map.mp hn
      have hlt := toNat_lt_of_isDigit (Text.isDigit_toDigits b c hc)
      simp [makesRightward, show ¬ 0x590 ≤ c.toNat by omega]
    have hany : ((Ipv4.bytes address).map fun b => (Ipv4.byteText b).map Char.toNat).any
        (·.any makesRightward) = false := by
      rw [List.any_eq_false]
      intro label hl
      simp [hleft label hl]
    rw [areClear, hany]
    rfl
  eq := by
    rw [Ipv4.text_eq, List.map_map]
    congr 1
    refine List.map_congr_left fun b _ => ?_
    have hascii : isAscii ((Ipv4.byteText b).map Char.toNat) = true := by
      refine isAscii_iff.mpr fun n hn => ?_
      obtain ⟨c, hc, rfl⟩ := List.mem_map.mp hn
      exact toNat_lt_of_isDigit (Text.isDigit_toDigits b c hc)
    simp [sendLabel, hascii, Function.comp_def]

theorem hasShortCodes_ipv4 (address : Nat) : HasShortCodes (Ipv4.text address) := by
  intro code hcode
  rw [Ipv4.splitOn_text] at hcode
  obtain ⟨b, -, hb⟩ := List.mem_map.mp hcode
  have hx := Text.isDigit_toDigits b 'x' (by rw [← Ipv4.byteText, hb]; simp)
  exact absurd hx (by decide)

/-- A domain or an address that was read is read again from its text, unless a label of the domain
is too long for that. -/
theorem ofDomain_ok (h : Host.ofDomain cs = .ok host) :
    HostText host.text ∧
      ((∀ name, host = .named name → HasShortCodes name) → Host.ofDomain host.text = .ok host) ∧
      ∀ name, host = .named name → ¬ HasShortCodes name →
        Host.ofDomain host.text = .error .badDomain := by
  unfold Host.ofDomain at h
  split at h
  · obtain ⟨groups, rfl, hlen, hfits⟩ := ofBracketed_ok h
    exact ⟨hostText_ipv6 groups, fun _ => ofBracketed_text hlen hfits, nofun⟩
  split at h
  · cases h
  · cases h
  next name hne hname =>
  obtain ⟨labels, hsent⟩ := sent_of_domainToAscii hname
  split at h
  · split at h
    · next address hparse =>
      obtain rfl := Except.ok.inj h
      have hfour := sent_ipv4 address
      have htext := Ipv4.text_ne_nil address
      have hlt := Ipv4.parse?_lt hparse
      refine ⟨hostText_of_sent hfour htext, fun _ => ?_, nofun⟩
      rw [Host.text, ofDomain_of_sent hfour htext (hasShortCodes_ipv4 address),
        Ipv4.endsInNumber_text, Ipv4.parse?_text hlt]
      rfl
    · cases h
  · next hends =>
    obtain rfl := Except.ok.inj h
    refine ⟨hostText_of_sent hsent hne, fun hshort => ?_, ?_⟩
    · rw [Host.text, ofDomain_of_sent hsent hne (hshort name rfl), if_neg hends]
    · rintro name' heq hlong
      obtain rfl := Host.named.inj heq
      rw [Host.text, ofDomain_eq hsent, hsent.domainToAscii_eq_none hlong]

end ClusterOperator.Url
