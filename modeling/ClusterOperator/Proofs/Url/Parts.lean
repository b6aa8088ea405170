import ClusterOperator.Proofs.Url.Host
import ClusterOperator.Proofs.Url.Path

/-!
# Parts of URLs, written and read

Each part of a URL ends where the next one begins: no scheme has a colon, no host a slash or an `@`,
and what was escaped has none of the marks of its set. So each is read again as it was written.
-/

namespace ClusterOperator.Url

variable {scheme cs rest front name : List Char} {mark c : Char} {host : Host} {path : Path}
  {port : Option Nat} {names : List (List Char)} {k : Kind}

/-! ## Ends and cuts -/

theorem clean_eq_self (h : ∀ c ∈ cs, 0x20 < c.toNat) : clean cs = cs := by
  have hdrop {cs : List Char} (h : ∀ c ∈ cs, 0x20 < c.toNat) :
      cs.dropWhile (fun c => decide (c.toNat ≤ 0x20)) = cs := by
    cases cs with
    | nil => rfl
    | cons c cs =>
      have hc := h c List.mem_cons_self
      rw [List.dropWhile_cons_of_neg (by simpa using hc)]
  unfold clean
  simp only
  rw [hdrop h, hdrop fun c hc => h c (List.mem_reverse.mp hc), List.reverse_reverse,
    List.filter_eq_self]
  intro c hc
  have hblank {d : Char} (hd : d.toNat ≤ 0x20) : c ≠ d := by
    rintro rfl
    have := h c hc
    omega
  simp [hblank (d := '\t') (by decide), hblank (d := '\n') (by decide),
    hblank (d := '\r') (by decide)]

theorem cutAt_mark (h : mark ∉ front) (rest : List Char) :
    cutAt mark (front ++ mark :: rest) = (front, some rest) := by
  have hall : ∀ c ∈ front, decide (c ≠ mark) = true := fun c hc =>
    decide_eq_true fun he => h (he ▸ hc)
  rw [cutAt, List.dropWhile_append_of_pos hall, List.takeWhile_append_of_pos hall]
  simp

theorem cutAt_none (h : mark ∉ cs) : cutAt mark cs = (cs, none) := by
  have hdrop : cs.dropWhile (· ≠ mark) = [] := by
    rw [List.dropWhile_eq_nil_iff]
    exact fun c hc => decide_eq_true fun he => h (he ▸ hc)
  rw [cutAt, hdrop]

theorem cutAt_some (h : cutAt mark cs = (front, some rest)) : cs = front ++ mark :: rest := by
  have hsplit := List.takeWhile_append_dropWhile (p := (· ≠ mark)) (l := cs)
  have hhead := List.head?_dropWhile_not (· ≠ mark) cs
  unfold cutAt at h
  split at h
  · next d after hd =>
    rw [hd] at hsplit hhead
    obtain ⟨rfl, hafter⟩ := Prod.mk.inj h
    obtain rfl := Option.some.inj hafter
    obtain rfl : d = mark := by simpa using hhead
    exact hsplit.symm
  · cases (Prod.mk.inj h).2

/-- What follows a mark, with the mark, if there is something. -/
def marked (mark : Char) : Option (List Char) → List Char
  | some rest => mark :: rest
  | none => []

theorem cutAt_marked (h : mark ∉ cs) (rest : Option (List Char)) :
    cutAt mark (cs ++ marked mark rest) = (cs, rest) := by
  cases rest with
  | none => simpa [marked] using cutAt_none h
  | some rest => exact cutAt_mark h rest

/-! ## Schemes -/

/-- A scheme as it is read, in small letters. -/
structure IsScheme (scheme : List Char) : Prop where
  head : ∃ c cs, scheme = c :: cs ∧ c.isAlpha = true
  chars : ∀ c ∈ scheme, isSchemeChar c = true
  small : scheme.map Char.toLower = scheme

theorem not_colon_of_isSchemeChar (h : isSchemeChar c = true) : c ≠ ':' := by
  rintro rfl
  exact absurd h (by decide)

theorem takeScheme_scheme (h : IsScheme scheme) (rest : List Char) :
    takeScheme (scheme ++ ':' :: rest) = some (scheme, rest) := by
  obtain ⟨⟨c, cs, rfl, hc⟩, hchars, hsmall⟩ := h
  have hcut : cutAt ':' (c :: cs ++ ':' :: rest) = (c :: cs, some rest) :=
    cutAt_mark (fun hm => not_colon_of_isSchemeChar (hchars _ hm) rfl) rest
  have hall : (c :: cs).all isSchemeChar = true := List.all_eq_true.mpr hchars
  rw [List.cons_append] at hcut ⊢
  rw [takeScheme, if_pos hc, hcut]
  simp only [hall, if_true, hsmall]

theorem toNat_lt_of_isSchemeChar (h : isSchemeChar c = true) : c.toNat < 0x80 := by
  have hletter : c.isAlphanum = ((decide ('A'.val ≤ c.val ∧ c.val ≤ 'Z'.val) ||
      ('a'.val ≤ c.val && c.val ≤ 'z'.val)) || ('0'.val ≤ c.val && c.val ≤ '9'.val)) := rfl
  simp only [isSchemeChar, hletter, Bool.or_eq_true, Bool.and_eq_true, decide_eq_true_eq,
    UInt32.le_iff_toNat_le] at h
  have hz : ('z' : Char).val.toNat = 122 := rfl
  have hZ : ('Z' : Char).val.toNat = 90 := rfl
  have h9 : ('9' : Char).val.toNat = 57 := rfl
  rcases h with ((h | rfl) | rfl) | rfl
  · change c.val.toNat < 0x80
    omega
  · decide
  · decide
  · decide

theorem isScheme_of_takeScheme (h : takeScheme cs = some (scheme, rest)) : IsScheme scheme := by
  unfold takeScheme at h
  split at h
  · next c cs =>
    split at h
    · next hc =>
      split at h
      · next front rest' hcut =>
        split at h
        · next hall =>
          obtain ⟨rfl, rfl⟩ := Prod.mk.inj (Option.some.inj h)
          have hchars := List.all_eq_true.mp hall
          have hlower {c : Char} (hc : isSchemeChar c = true) :
              isSchemeChar c.toLower = true ∧ c.toLower.toLower = c.toLower ∧
                (c.isAlpha = true → c.toLower.isAlpha = true) :=
            forall_ascii (P := fun c => isSchemeChar c = true → isSchemeChar c.toLower = true ∧
              c.toLower.toLower = c.toLower ∧ (c.isAlpha = true → c.toLower.isAlpha = true))
              (by decide) (toNat_lt_of_isSchemeChar hc) hc
          constructor
          · cases front with
            | nil =>
              obtain ⟨rfl, -⟩ := List.cons.inj (cutAt_some hcut)
              exact absurd hc (by decide)
            | cons d front =>
              obtain ⟨rfl, -⟩ := List.cons.inj (cutAt_some hcut)
              exact ⟨_, _, rfl, (hlower (hchars _ List.mem_cons_self)).2.2 hc⟩
          · intro d hd
            obtain ⟨e, he, rfl⟩ := List.mem_map.mp hd
            exact (hlower (hchars e he)).1
          · rw [List.map_map]
            exact List.map_congr_left fun d hd => (hlower (hchars d hd)).2.1
        · cases h
      · cases h
    · cases h
  · cases h

/-! ## Ports -/

/-- A port that is written with its scheme. -/
def IsPort (scheme : List Char) (port : Option Nat) : Prop :=
  ∀ p ∈ port, p ≤ 0xFFFF ∧ defaultPort? scheme ≠ some p

def portText : Option Nat → List Char
  | some p => ':' :: (toString p).toList
  | none => []

theorem isPort_of_readPort (h : readPort scheme cs = .ok (port, rest)) : IsPort scheme port := by
  have hkept {digits : List Char} {n : Nat} (hn : ¬ 0xFFFF < n) :
      IsPort scheme (readPort.kept scheme digits n) := by
    unfold readPort.kept
    split
    · simp [IsPort]
    · next hd =>
      simp only [Bool.or_eq_true, decide_eq_true_eq, not_or] at hd
      intro p hp
      obtain rfl := Option.some.inj hp
      exact ⟨by omega, hd.2⟩
  unfold readPort at h
  simp only at h
  split at h
  · cases h
  · next hn =>
    split at h
    · obtain ⟨rfl, -⟩ := Prod.mk.inj (Except.ok.inj h)
      exact hkept hn
    · split at h
      · obtain ⟨rfl, -⟩ := Prod.mk.inj (Except.ok.inj h)
        exact hkept hn
      · cases h

theorem readPort_text {p : Nat} (h : p ≤ 0xFFFF) (hdefault : defaultPort? scheme ≠ some p)
    (hrest : ∀ c ∈ rest.head?, c = '/') :
    readPort scheme ((toString p).toList ++ rest) = .ok (some p, rest) := by
  have hdigits := Text.isDigit_toDigits p
  have hno : Text.NoDigit rest := by
    intro c hc
    rw [hrest c hc]
    decide
  have hkept : readPort.kept scheme (Nat.toDigits 10 p) p = some p := by
    simp [readPort.kept, Nat.toDigits_ne_nil, hdefault]
  rw [toList_toString, readPort, Text.takeWhile_digits hdigits hno,
    Text.dropWhile_digits hdigits hno, Text.ofDigits_toDigits]
  simp only [Nat.not_lt.mpr h, if_false, hkept]
  cases rest with
  | nil => rfl
  | cons c rest => simp [hrest c rfl]

/-! ## Hosts -/

/-- The host that a text names in a URL of such a kind. -/
def asHost (k : Kind) (cs : List Char) : Except Fault Host :=
  if k.isSpecial then Host.ofDomain cs else Host.ofOpaque cs

theorem not_slash_of_inside (h : isAround c = false) : isSlash k c = false := by
  simp only [isAround, Bool.or_eq_false_iff, decide_eq_false_iff_not] at h
  simp [isSlash, h]

theorem portText_chars (hc : c ∈ portText port) : c = ':' ∨ c.isDigit = true := by
  cases port with
  | none => cases hc
  | some p =>
    rw [portText, toList_toString] at hc
    rcases List.mem_cons.mp hc with rfl | hc
    · exact .inl rfl
    · exact .inr (Text.isDigit_toDigits p c hc)

theorem not_around_of_isDigit (h : c.isDigit = true) : isAround c = false :=
  forall_ascii (P := fun c => c.isDigit = true → isAround c = false) (by decide)
    (toNat_lt_of_isDigit h) h

theorem not_around_of_mem_portText (hc : c ∈ portText port) : isAround c = false := by
  rcases portText_chars hc with rfl | hc
  · decide
  · exact not_around_of_isDigit hc

/-- No slash is in what stands before a path. -/
theorem takeWhile_beforePath (hname : HostText name) (hrest : ∀ c ∈ rest.head?, c = '/')
    (port : Option Nat) (k : Kind) :
    (name ++ (portText port ++ rest)).takeWhile (fun c => !isSlash k c) =
      name ++ portText port := by
  have hslash : ∀ c ∈ name ++ portText port, (!isSlash k c) = true := by
    intro c hc
    rw [Bool.not_eq_true']
    rcases List.mem_append.mp hc with hc | hc
    · exact not_slash_of_inside (hname.inside c hc)
    · exact not_slash_of_inside (not_around_of_mem_portText hc)
  rw [← List.append_assoc, List.takeWhile_append_of_pos hslash]
  cases rest with
  | nil => simp
  | cons c rest =>
    obtain rfl := hrest c rfl
    simp [isSlash]

theorem readHost_text (hname : HostText name) (hport : IsPort scheme port)
    (hrest : ∀ c ∈ rest.head?, c = '/') :
    readHost scheme (name ++ (portText port ++ rest)) =
      (asHost (.ofScheme scheme) name).map fun host => (some host, port, rest) := by
  have hup := takeWhile_beforePath hname hrest port (.ofScheme scheme)
  have hcolon : ∀ c ∈ (portText port).head?, c = ':' := by
    cases port with
    | none => simp [portText]
    | some p => simp [portText]
  have hlength := hname.whole (portText port) hcolon
  have hne : name.isEmpty = false := by simp [hname.ne_nil]
  unfold readHost asHost
  simp only [hup, hlength, List.take_left', List.drop_left', hne, Bool.false_and,
    Bool.false_eq_true, if_false]
  generalize (if (Kind.ofScheme scheme).isSpecial then Host.ofDomain name
    else Host.ofOpaque name) = host
  cases host with
  | error e => rfl
  | ok host =>
    cases port with
    | none =>
      cases rest with
      | nil => rfl
      | cons c rest =>
        obtain rfl := hrest c rfl
        rfl
    | some p =>
      obtain ⟨hp, hdefault⟩ := hport p rfl
      have hread := readPort_text hp hdefault hrest
      simp only [portText, List.cons_append, hread]
      rfl

/-- What a host and a port were read from. -/
theorem readHost_inv (h : readHost scheme cs = .ok (some host, port, rest)) :
    (∃ name, name ≠ [] ∧ asHost (.ofScheme scheme) name = .ok host) ∧ IsPort scheme port := by
  have hread {host? : Option Host} {digits : List Char}
      (h : (readPort scheme digits).bind (fun x => .ok (host?, x.1, x.2)) =
        Except.ok (some host, port, rest)) : host? = some host ∧ IsPort scheme port := by
    cases hread : readPort scheme digits with
    | error e => rw [hread] at h; cases h
    | ok x =>
      rw [hread] at h
      obtain ⟨rfl, hpair⟩ := Prod.mk.inj (Except.ok.inj h)
      obtain ⟨rfl, -⟩ := Prod.mk.inj hpair
      exact ⟨rfl, isPort_of_readPort hread⟩
  have hnone {host? : Option Host} {after : List Char}
      (h : (.ok (host?, none, after) : Except Fault _) = .ok (some host, port, rest)) :
      host? = some host ∧ IsPort scheme port := by
    obtain ⟨rfl, hpair⟩ := Prod.mk.inj (Except.ok.inj h)
    obtain ⟨rfl, -⟩ := Prod.mk.inj hpair
    exact ⟨rfl, by simp [IsPort]⟩
  unfold readHost at h
  simp only [bind, Except.bind] at h
  generalize cs.take _ = name at h
  generalize cs.drop _ = after at h
  split at h
  · cases h
  split at h
  · simp only [pure, Except.pure] at h
    split at h
    · exact absurd (hread h).1 nofun
    · exact absurd (hnone h).1 nofun
  next hname =>
  cases hhost : (if (Kind.ofScheme scheme).isSpecial then Host.ofDomain name
      else Host.ofOpaque name) with
  | error e => rw [hhost] at h; cases h
  | ok found =>
    have hfound : some found = some host ∧ IsPort scheme port := by
      rw [hhost] at h
      dsimp only [Functor.map, Except.map] at h
      split at h
      · exact hread h
      · exact hnone h
    obtain rfl := Option.some.inj hfound.1
    exact ⟨⟨name, by simpa using hname, hhost⟩, hfound.2⟩

/-- A host that was read can be looked for in a text, and is read again from its own, unless that
has a label that is too long. -/
theorem asHost_text (h : asHost k cs = .ok host) (hne : cs ≠ []) :
    HostText host.text ∧
      ((k.isSpecial = true → ∀ name, host = .named name → HasShortCodes name) →
        asHost k host.text = .ok host) ∧
      (k.isSpecial = true → ∀ name, host = .named name → ¬ HasShortCodes name →
        asHost k host.text = .error .badDomain) := by
  unfold asHost at h ⊢
  cases hk : k.isSpecial with
  | true =>
    rw [hk, if_pos rfl] at h
    obtain ⟨htext, hback, hlong⟩ := ofDomain_ok h
    exact ⟨htext, fun hshort => hback (hshort rfl), fun _ => hlong⟩
  | false =>
    rw [hk, if_neg (by decide)] at h
    obtain ⟨htext, hback⟩ := ofOpaque_ok h hne
    exact ⟨htext, fun _ => hback, nofun⟩

/-! ## Authorities -/

theorem cutUser_none (h : '@' ∉ cs) : cutUser cs = none := by
  have hdrop : cs.reverse.dropWhile (· ≠ '@') = [] := by
    rw [List.dropWhile_eq_nil_iff]
    exact fun c hc => decide_eq_true fun he => h (he ▸ List.mem_reverse.mp hc)
  rw [cutUser, hdrop]

theorem readAuthority_text (hname : HostText name) (hport : IsPort scheme port)
    (hpath : IsPath (.ofScheme scheme) path names) (more : Bool) :
    readAuthority scheme more (name ++ (portText port ++ path.text)) =
      (asHost (.ofScheme scheme) name).map fun host => (⟨[], [], some host, port⟩, path) := by
  have htake := takeWhile_beforePath hname hpath.head_text port (.ofScheme scheme)
  have huser : cutUser ((name ++ (portText port ++ path.text)).take
      (name ++ portText port).length) = none := by
    rw [← List.append_assoc, List.take_left' rfl]
    refine cutUser_none fun hm => ?_
    have hat : isAround '@' = false := by
      rcases List.mem_append.mp hm with hm | hm
      · exact hname.inside _ hm
      · exact not_around_of_mem_portText hm
    exact absurd hat (by decide)
  unfold readAuthority
  simp only [htake, huser, bind, Except.bind, pure, Except.pure,
    readHost_text hname hport hpath.head_text]
  cases asHost (.ofScheme scheme) name with
  | error e => rfl
  | ok host =>
    simp only [Except.map, hpath.readPathStart_text]
    rfl

theorem readAuthority_inv {more : Bool} {a : Authority}
    (h : readAuthority scheme more cs = .ok (a, path)) :
    ∃ before after, readHost scheme before = .ok (a.host, a.port, after) ∧
      path = readPathStart (.ofScheme scheme) after := by
  have hhost {user password rest : List Char} {a : Authority} {path : Path}
      (h : (readHost scheme rest).bind (fun x =>
        if x.1.isNone && !(user.isEmpty && password.isEmpty) then Except.error Fault.emptyHost
        else .ok (⟨user, password, x.1, x.2.1⟩, readPathStart (.ofScheme scheme) x.2.2)) =
          .ok (a, path)) :
      ∃ before after, readHost scheme before = .ok (a.host, a.port, after) ∧
        path = readPathStart (.ofScheme scheme) after := by
    cases hread : readHost scheme rest with
    | error e => rw [hread] at h; cases h
    | ok x =>
      rw [hread] at h
      simp only [Except.bind] at h
      split at h
      · cases h
      · obtain ⟨rfl, rfl⟩ := Prod.mk.inj (Except.ok.inj h)
        exact ⟨rest, x.2.2, hread, rfl⟩
  unfold readAuthority at h
  simp only [bind, Except.bind] at h
  split at h
  · exact hhost h
  · split at h
    · cases h
    · exact hhost h

end ClusterOperator.Url
