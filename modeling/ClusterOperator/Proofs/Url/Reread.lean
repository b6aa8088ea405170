import ClusterOperator.Proofs.Url.Parts

/-!
# URLs, read again

A URL that was read and that may carry a user is read again from its text without one, and it is
the same URL in all that remains.
-/

namespace ClusterOperator.Url

variable {scheme cs name : List Char} {c : Char} {host : Host} {path : Path} {port : Option Nat}
  {names : List (List Char)} {u : Url} {s : String}

/-! ## After the scheme -/

theorem ofScheme_ne_file (h : (Kind.ofScheme scheme) ≠ .file) :
    (Kind.ofScheme scheme = .internet ∧ (Kind.ofScheme scheme).isSpecial = true) ∨
      (Kind.ofScheme scheme = .other ∧ (Kind.ofScheme scheme).isSpecial = false) := by
  cases hk : Kind.ofScheme scheme with
  | internet => exact .inl ⟨rfl, rfl⟩
  | file => exact absurd hk h
  | other => exact .inr ⟨rfl, rfl⟩

theorem readRest_text (hk : Kind.ofScheme scheme ≠ .file) (hname : HostText name)
    (hport : IsPort scheme port) (hpath : IsPath (.ofScheme scheme) path names) (more : Bool) :
    readRest scheme more ('/' :: '/' :: (name ++ (portText port ++ path.text))) =
      (asHost (.ofScheme scheme) name).map fun host => (some ⟨[], [], some host, port⟩, path) := by
  have hread := readAuthority_text hname hport hpath more
  unfold readRest
  cases hkind : Kind.ofScheme scheme with
  | internet =>
    obtain ⟨c, cs, hc⟩ := List.exists_cons_of_ne_nil hname.ne_nil
    have hin := hname.inside c (by simp [hc])
    have hslash : ¬ (c = '/' || c = '\\') = true := by
      simp only [isAround, Bool.or_eq_false_iff, decide_eq_false_iff_not] at hin
      simp [hin]
    have hdrop : ('/' :: '/' :: (name ++ (portText port ++ path.text))).dropWhile
        (fun c => c = '/' || c = '\\') = name ++ (portText port ++ path.text) := by
      rw [hc, List.cons_append]
      simp [hslash]
    simp only [hdrop, hread, hkind, bind, Except.bind]
    cases asHost .internet name <;> rfl
  | file => exact absurd hkind hk
  | other =>
    simp only [hread, hkind, bind, Except.bind]
    cases asHost .other name <;> rfl

theorem readRest_inv {more : Bool} {a : Authority} (hk : Kind.ofScheme scheme ≠ .file)
    (h : readRest scheme more cs = .ok (some a, path)) :
    ∃ before, readAuthority scheme more before = .ok (a, path) := by
  have hbind {before : List Char} (h : (readAuthority scheme more before).bind (fun x =>
      Except.ok (some x.1, x.2)) = .ok (some a, path)) :
      readAuthority scheme more before = .ok (a, path) := by
    cases hread : readAuthority scheme more before with
    | error e => rw [hread] at h; cases h
    | ok x =>
      rw [hread] at h
      obtain ⟨ha, rfl⟩ := Prod.mk.inj (Except.ok.inj h)
      obtain rfl := Option.some.inj ha
      rfl
  unfold readRest at h
  cases hkind : Kind.ofScheme scheme with
  | internet =>
    rw [hkind] at h
    exact ⟨_, hbind h⟩
  | file => exact absurd hkind hk
  | other =>
    simp only [hkind] at h
    split at h
    · exact ⟨_, hbind h⟩
    · exact absurd (Prod.mk.inj (Except.ok.inj h)).1 nofun
    · exact absurd (Prod.mk.inj (Except.ok.inj h)).1 nofun

/-! ## Whole URLs -/

theorem above_of_needsEscape (h : needsEscape c = false) (hblank : c ≠ ' ') : 0x20 < c.toNat := by
  simp only [needsEscape, Bool.or_eq_false_iff, decide_eq_false_iff_not, Nat.not_lt] at h
  have hne : c.toNat ≠ 0x20 := fun he => hblank (Char.toNat_inj.mp he)
  omega

theorem above_of_inFragmentSet (h : inFragmentSet c = false) : 0x20 < c.toNat := by
  simp only [inFragmentSet, Bool.or_eq_false_iff, decide_eq_false_iff_not] at h
  exact above_of_needsEscape h.1.1.1.1.1 h.1.1.1.1.2

/-- The parts of a URL as they are read, where the host is some text. -/
structure Spelled (u : Url) (name : List Char) (port : Option Nat) (names : List (List Char)) :
    Prop where
  scheme : IsScheme u.scheme
  notFile : u.kind ≠ .file
  isHost : HostText name
  isPort : IsPort u.scheme port
  isPath : IsPath u.kind u.path names
  query : ∀ q ∈ u.query, ∀ c ∈ q, inQuerySet u.kind.isSpecial c = false
  fragment : ∀ f ∈ u.fragment, ∀ c ∈ f, inFragmentSet c = false

theorem spelled_of_parseChars (h : parseChars cs = .ok u) (hu : u.carriesUser = true) :
    ∃ user password host port names, u.authority = some ⟨user, password, some host, port⟩ ∧
      Spelled u host.text port names ∧ ∃ name, name ≠ [] ∧ asHost u.kind name = .ok host := by
  unfold parseChars at h
  simp only [bind, Except.bind] at h
  split at h
  · cases h
  next scheme rest hscheme =>
  split at h
  · cases h
  next x hrest =>
  obtain rfl := Except.ok.inj h
  obtain ⟨authority, path⟩ := x
  cases authority with
  | none => simp [carriesUser] at hu
  | some a =>
    obtain ⟨user, password, host?, port⟩ := a
    cases host? with
    | none => simp [carriesUser] at hu
    | some host =>
      have hk : Kind.ofScheme scheme ≠ .file := by
        simp only [carriesUser, kind, Bool.and_eq_true] at hu
        exact of_decide_eq_true hu.1
      obtain ⟨before, hauthority⟩ := readRest_inv hk hrest
      obtain ⟨before, after, hhost, rfl⟩ := readAuthority_inv hauthority
      obtain ⟨names, hnames⟩ := isPath_of_readPathStart (.ofScheme scheme) after
      obtain ⟨⟨name, hne, hname⟩, hport⟩ := readHost_inv hhost
      refine ⟨user, password, host, port, names, rfl, ⟨isScheme_of_takeScheme hscheme, hk,
        (asHost_text hname hne).1, hport, hnames, ?_, ?_⟩, name, hne, hname⟩
      · intro q hq c hc
        obtain ⟨q', -, rfl⟩ := Option.map_eq_some_iff.mp hq
        exact (sparesEscapes_inQuerySet _).of_mem hc
      · intro f hf c hc
        obtain ⟨f', -, rfl⟩ := Option.map_eq_some_iff.mp hf
        exact sparesEscapes_inFragmentSet.of_mem hc

/-- What comes before the query. -/
def upToQuery (u : Url) (name : List Char) (port : Option Nat) : List Char :=
  u.scheme ++ ':' :: '/' :: '/' :: (name ++ (portText port ++ u.path.text))

/-- The text of a URL with this host and no user. -/
def spelling (u : Url) (name : List Char) (port : Option Nat) : List Char :=
  u.upToQuery name port ++ marked '?' u.query ++ marked '#' u.fragment

theorem toText_withoutUser {user password : List Char}
    (ha : u.authority = some ⟨user, password, some host, port⟩) :
    u.withoutUser.toText = u.spelling host.text port := by
  simp only [toText, withoutUser, ha, Option.map_some, Authority.text, spelling, upToQuery]
  cases port <;> cases u.query <;> cases u.fragment <;> simp [portText, marked]

namespace Spelled

theorem mem_upToQuery (h : Spelled u name port names) (hc : c ∈ u.upToQuery name port) :
    0x20 < c.toNat ∧ c ≠ '?' ∧ c ≠ '#' := by
  have hinside (hc : isAround c = false) : 0x20 < c.toNat ∧ c ≠ '?' ∧ c ≠ '#' := by
    simp only [isAround, Bool.or_eq_false_iff, decide_eq_false_iff_not, Nat.not_le] at hc
    tauto
  simp only [upToQuery, List.mem_append, List.mem_cons] at hc
  rcases hc with hc | rfl | rfl | rfl | hc | hc | hc
  · have hscheme := h.scheme.chars c hc
    exact forall_ascii (P := fun c => isSchemeChar c = true → 0x20 < c.toNat ∧ c ≠ '?' ∧ c ≠ '#')
      (by decide) (toNat_lt_of_isSchemeChar hscheme) hscheme
  · decide
  · decide
  · decide
  · exact hinside (h.isHost.inside c hc)
  · exact hinside (not_around_of_mem_portText hc)
  · have hpath := h.isPath.escaped hc
    simp only [inPathSet, Bool.or_eq_false_iff, decide_eq_false_iff_not] at hpath
    exact ⟨above_of_inFragmentSet hpath.1.1.1.1, hpath.1.1.2, hpath.1.1.1.2⟩

theorem mem_query (h : Spelled u name port names) (hc : c ∈ marked '?' u.query) :
    0x20 < c.toNat ∧ c ≠ '#' := by
  cases hq : u.query with
  | none =>
    rw [hq] at hc
    cases hc
  | some q =>
    rw [hq] at hc
    rcases List.mem_cons.mp hc with rfl | hc
    · decide
    · have hset := h.query q hq c hc
      simp only [inQuerySet, Bool.or_eq_false_iff, decide_eq_false_iff_not] at hset
      exact ⟨above_of_needsEscape hset.1.1.1.1.1.1 hset.1.1.1.1.1.2, hset.1.1.1.2⟩

theorem mem_fragment (h : Spelled u name port names) (hc : c ∈ marked '#' u.fragment) :
    0x20 < c.toNat := by
  cases hf : u.fragment with
  | none =>
    rw [hf] at hc
    cases hc
  | some f =>
    rw [hf] at hc
    rcases List.mem_cons.mp hc with rfl | hc
    · decide
    · exact above_of_inFragmentSet (h.fragment f hf c hc)

/-- All but the host is read as it is written. -/
theorem parseChars_spelling (h : Spelled u name port names) :
    parseChars (u.spelling name port) =
      (asHost u.kind name).map fun host =>
        { u with authority := some ⟨[], [], some host, port⟩ } := by
  have hclean : clean (u.spelling name port) = u.spelling name port := by
    refine clean_eq_self fun c hc => ?_
    rcases List.mem_append.mp hc with hc | hc
    · rcases List.mem_append.mp hc with hc | hc
      · exact (h.mem_upToQuery hc).1
      · exact (h.mem_query hc).1
    · exact h.mem_fragment hc
  have hfragment : cutAt '#' (u.spelling name port) =
      (u.upToQuery name port ++ marked '?' u.query, u.fragment) := by
    refine cutAt_marked (fun hm => ?_) _
    rcases List.mem_append.mp hm with hm | hm
    · exact (h.mem_upToQuery hm).2.2 rfl
    · exact (h.mem_query hm).2 rfl
  have hquery : cutAt '?' (u.upToQuery name port ++ marked '?' u.query) =
      (u.upToQuery name port, u.query) :=
    cutAt_marked (fun hm => (h.mem_upToQuery hm).2.1 rfl) _
  have hscheme := takeScheme_scheme h.scheme
    ('/' :: '/' :: (name ++ (portText port ++ u.path.text)))
  have hrest := readRest_text h.notFile h.isHost h.isPort h.isPath
    (u.query.isSome || u.fragment.isSome)
  have hq : u.query.map (escape (inQuerySet (Kind.ofScheme u.scheme).isSpecial)) = u.query := by
    cases hq : u.query with
    | none => rfl
    | some q => exact congrArg some (escape_eq_self (h.query q hq))
  have hf : u.fragment.map (escape inFragmentSet) = u.fragment := by
    cases hf : u.fragment with
    | none => rfl
    | some f => exact congrArg some (escape_eq_self (h.fragment f hf))
  unfold parseChars
  rw [hclean, hfragment]
  simp only [hquery]
  rw [upToQuery, hscheme]
  simp only [hrest, bind, Except.bind, pure, Except.pure, hq, hf]
  rw [kind]
  cases asHost (Kind.ofScheme u.scheme) name <;> rfl

end Spelled

/-- No label of the host is in more digits of Punycode than are read. -/
def hasShortCodes (u : Url) : Prop :=
  u.kind = .internet → ∀ a ∈ u.authority, ∀ name, a.host = some (.named name) → HasShortCodes name

/-- A URL that was read is read again without its user. -/
theorem parse_withoutUser (h : parse s = .ok u) (hu : u.carriesUser = true)
    (hshort : u.hasShortCodes) : parse u.withoutUser.text = .ok u.withoutUser := by
  obtain ⟨user, password, host, port, names, ha, hspelled, name, hne, hname⟩ :=
    spelled_of_parseChars h hu
  have hback : asHost u.kind host.text = .ok host := by
    refine (asHost_text hname hne).2.1 fun hs name hn => ?_
    rcases ofScheme_ne_file hspelled.notFile with hk | hk
    · exact hshort hk.1 _ ha name (by rw [hn])
    · rw [kind, hk.2] at hs
      cases hs
  rw [parse, text, String.toList_ofList, toText_withoutUser ha, hspelled.parseChars_spelling, hback]
  simp [Except.map, withoutUser, ha]

/-- If it has a label that is too long, it is read no more. -/
theorem parse_withoutUser_of_long (h : parse s = .ok u) (hu : u.carriesUser = true)
    (hlong : ¬ u.hasShortCodes) : parse u.withoutUser.text = .error .badDomain := by
  obtain ⟨user, password, host, port, names, ha, hspelled, name, hne, hname⟩ :=
    spelled_of_parseChars h hu
  simp only [hasShortCodes, not_forall] at hlong
  obtain ⟨hk, a, ha', name', hname', hlong⟩ := hlong
  obtain rfl : ⟨user, password, some host, port⟩ = a := Option.some.inj (ha.symm.trans ha')
  have hback : asHost u.kind host.text = .error .badDomain :=
    (asHost_text hname hne).2.2 (by rw [hk]; rfl) name' (Option.some.inj hname') hlong
  rw [parse, text, String.toList_ofList, toText_withoutUser ha, hspelled.parseChars_spelling, hback]
  rfl

end ClusterOperator.Url
