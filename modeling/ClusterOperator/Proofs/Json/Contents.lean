import Mathlib.Data.List.Nodup
import ClusterOperator.Proofs.Json.Record

/-!
# What a record takes from its text

A record that was read has in each field what the one member of that name means, or the item in
that place, or what there being none stands for. What a text has to say for that is written
down here without regard to how it is read.
-/

namespace ClusterOperator.Json

variable {α β : Type} {a : α} {j : Json} {depth : Nat} {read : Read α} {means : α → Json → Prop}

/-! ## Single values -/

def IsText (s : String) (j : Json) : Prop := j = .string s

def IsBool (b : Bool) (j : Json) : Prop := j = .bool b

def IsInt32 (i : Int32) (j : Json) : Prop := j = .int i.toInt

def IsInt64 (i : Int64) (j : Json) : Prop := j = .int i.toInt

def IsUInt64 (n : UInt64) (j : Json) : Prop := j = .int n.toNat

/-- Null says that there is no value. -/
def OrNull (means : α → Json → Prop) : Option α → Json → Prop
  | none, j => j = .null
  | some a, j => means a j

def IsList (means : α → Json → Prop) (as : List α) (j : Json) : Prop :=
  ∃ js, j = .arr js ∧ List.Forall₂ means as js

/-! ## Records -/

/-- What a text has to say of one field of a record. -/
structure Slot where
  name : String
  means : Json → Prop
  /-- What is so if the text has no value for the field. -/
  missing : Prop

namespace Slot

def required (name : String) (means : α → Json → Prop) (a : α) : Slot := ⟨name, means a, False⟩

def optional (name : String) (means : α → Json → Prop) (a absent : α) : Slot :=
  ⟨name, means a, a = absent⟩

def Told (s : Slot) : Option Json → Prop
  | some j => s.means j
  | none => s.missing

end Slot

/-- An object has no more than one member for each slot; an array has the values of the first
slots in their order. -/
def Tells (slots : List Slot) (j : Json) : Prop :=
  (∃ ms : Fields, j = .obj ms ∧ ∀ s ∈ slots, ∃ value : Option Json,
    ms.filter (·.1 = s.name) = value.toList.map (s.name, ·) ∧ s.Told value) ∨
  ∃ js : List Json, j = .arr js ∧ js.length ≤ slots.length ∧
    ∀ (i : Nat) (s : Slot), slots[i]? = some s → s.Told js[i]?

/-! ## Values that are read -/

/-- What is read is what the text says. -/
def Faithful (read : Read α) (means : α → Json → Prop) : Prop :=
  ∀ j a, read j = .ok a → means a j

theorem faithful_string : Faithful readString IsText := by
  intro j s h
  cases j <;> cases h
  rfl

theorem faithful_bool : Faithful readBool IsBool := by
  intro j b h
  cases j <;> cases h
  rfl

theorem ok_of_map {ε : Type} {f : β → α} {r : Except ε β} (h : f <$> r = .ok a) :
    ∃ b, r = .ok b ∧ f b = a := by
  cases r <;> cases h
  exact ⟨_, rfl, rfl⟩

theorem int_of_readInt {lo hi i : Int} (h : readInt lo hi j = .ok i) :
    j = .int i ∧ lo ≤ i ∧ i ≤ hi := by
  cases j with
  | number n =>
    cases n with
    | int k =>
      simp only [readInt] at h
      split at h
      · next hk =>
        cases h
        exact ⟨rfl, hk⟩
      · cases h
    | double x => cases h
  | _ => cases h

/-- A number that is made of an integer was read within the bounds. -/
theorem int_of_map {lo hi : Int} {ofInt : Int → α} (h : ofInt <$> readInt lo hi j = .ok a) :
    ∃ i, j = .int i ∧ (lo ≤ i ∧ i ≤ hi) ∧ ofInt i = a := by
  obtain ⟨i, hr, ha⟩ := ok_of_map h
  obtain ⟨hj, hi⟩ := int_of_readInt hr
  exact ⟨i, hj, hi, ha⟩

theorem faithful_int32 : Faithful readInt32 IsInt32 := by
  intro j a h
  obtain ⟨i, rfl, hi, rfl⟩ := int_of_map h
  rw [IsInt32, Int32.toInt_ofInt_of_le (by omega) (by omega)]

theorem faithful_int64 : Faithful readInt64 IsInt64 := by
  intro j a h
  obtain ⟨i, rfl, hi, rfl⟩ := int_of_map h
  rw [IsInt64, Int64.toInt_ofInt_of_le (by omega) (by omega)]

theorem faithful_uint64 : Faithful readUInt64 IsUInt64 := by
  intro j a h
  obtain ⟨i, rfl, ⟨hlo, hhi⟩, rfl⟩ := int_of_map h
  have hlt : i.toNat < 2 ^ 64 := by omega
  rw [IsUInt64, UInt64.toNat_ofNat_of_lt' hlt, Int.toNat_of_nonneg hlo]

theorem Faithful.option (h : Faithful read means) : Faithful (readOption read) (OrNull means) := by
  intro j o ho
  unfold readOption at ho
  split at ho
  · cases ho
    rfl
  · obtain ⟨a, hr, rfl⟩ := ok_of_map ho
    exact h j a hr

theorem items_of_readItemsWith (h : Faithful read means) : ∀ (items : Items) (as : List α),
    readItemsWith read items = .ok as → ∃ js, items = .ofList js ∧ List.Forall₂ means as js
  | .nil, as, hr => by
    cases hr
    exact ⟨[], rfl, .nil⟩
  | .cut _, as, hr => by cases hr
  | .cons head tail, as, hr => by
    unfold readItemsWith at hr
    cases hhead : read head with
    | error e => simp [hhead] at hr
    | ok a =>
      cases htail : readItemsWith read tail with
      | error e => simp [hhead, htail] at hr
      | ok as' =>
        simp only [hhead, htail] at hr
        cases hr
        obtain ⟨js, rfl, hjs⟩ := items_of_readItemsWith h tail as' htail
        exact ⟨head :: js, rfl, .cons (h head a hhead) hjs⟩

theorem Faithful.list (h : Faithful read means) : Faithful (readList depth read) (IsList means) := by
  intro j as hr
  cases j with
  | array items =>
    simp only [readList] at hr
    by_cases hd : depth = 0
    · rw [if_pos hd] at hr
      cases hr
    · rw [if_neg hd] at hr
      obtain ⟨js, rfl, hjs⟩ := items_of_readItemsWith h items as hr
      exact ⟨js, rfl, hjs⟩
  | _ => cases hr

/-! ## Fields that are taken -/

/-- How a field can get its value: from a value in the text, or from there being none. -/
structure RecordField.Taken (f : RecordField α) where
  source : Option Json
  value : α
  gives : ∀ j, source = some j → f.read j = .ok value
  stands : source = none → f.absent = some value ∨ f.unlisted = some value

/-- The names of the fields, each with what was taken for it. -/
abbrev Sources := List (String × Option Json)

def Slot.Fits (s : Slot) (source : String × Option Json) : Prop :=
  s.name = source.1 ∧ s.Told source.2

/-- The sources say what the slots ask for. -/
abbrev Follows (slots : List Slot) (sources : Sources) : Prop := List.Forall₂ Slot.Fits slots sources

namespace RecordField

@[simp] theorem required_name {name : String} : (RecordField.required name read).name = name := rfl

@[simp] theorem optional_name {name : String} : (RecordField.optional name read a).name = name := rfl

end RecordField

namespace RecordField.Taken

variable {f : RecordField α}

def ofValue (h : f.read j = .ok a) : f.Taken where
  source := some j
  value := a
  gives _ hj := Option.some.inj hj ▸ h
  stands := nofun

def ofNone (h : f.absent = some a ∨ f.unlisted = some a) : f.Taken where
  source := none
  value := a
  gives := nofun
  stands _ := h

theorem required {name : String} (t : (RecordField.required name read).Taken)
    (h : Faithful read means) : (Slot.required name means t.value).Fits (name, t.source) := by
  obtain ⟨source, value, hgives, hstands⟩ := t
  refine ⟨rfl, ?_⟩
  cases source with
  | some j => exact h j value (hgives j rfl)
  | none => rcases hstands rfl with hv | hv <;> cases hv

theorem optional {name : String} {absent : α} (t : (RecordField.optional name read absent).Taken)
    (h : Faithful read means) :
    (Slot.optional name means t.value absent).Fits (name, t.source) := by
  obtain ⟨source, value, hgives, hstands⟩ := t
  refine ⟨rfl, ?_⟩
  cases source with
  | some j => exact h j value (hgives j rfl)
  | none => rcases hstands rfl with hv | hv <;> exact (Option.some.inj hv).symm

end RecordField.Taken

namespace Draft

/-- True of each record that the draft can make, and of what its fields were taken from. Like
the record itself it is found field by field, from the last one to the first. -/
def Always : {α : Type} → Draft α → (Sources → α → Prop) → Prop
  | _, .make a, p => p [] a
  | _, .field rest f _, p => rest.Always fun sources make =>
    ∀ t : f.Taken, p (sources ++ [(f.name, t.source)]) (make t.value)

def names : {α : Type} → Draft α → List String
  | _, .make _ => []
  | _, .field rest f _ => rest.names ++ [f.name]

/-- Each field has taken the one member of its name, or has no value yet. -/
def Holds (ms : Fields) : {α : Type} → Draft α → Prop
  | _, .make _ => True
  | _, .field rest f found => rest.Holds ms ∧ ∃ value : Option Json,
    ms.filter (·.1 = f.name) = value.toList.map (f.name, ·) ∧
      value.map f.read = found.map .ok

@[simp] theorem names_make : (make a).names = [] := rfl

@[simp] theorem names_and {rest : Draft (β → α)} {f : RecordField β} :
    (rest.and f).names = rest.names ++ [f.name] := rfl

@[simp] theorem holds_make {ms : Fields} : (make a).Holds ms := trivial

@[simp] theorem holds_and_nil {rest : Draft (β → α)} {f : RecordField β} :
    (rest.and f).Holds [] ↔ rest.Holds [] := by
  refine ⟨And.left, fun h => ⟨h, none, rfl, rfl⟩⟩

/-! ### From an object -/

variable {d d' : Draft α} {name : String} {ms seen : Fields} {p : Sources → α → Prop}

theorem filter_concat_self (name : String) (j : Json) :
    (ms ++ [(name, j)]).filter (·.1 = name) = ms.filter (·.1 = name) ++ [(name, j)] := by
  simp

theorem filter_concat_other {other : String} (h : other ≠ name) (j : Json) :
    (ms ++ [(other, j)]).filter (·.1 = name) = ms.filter (·.1 = name) := by
  simp [h]

/-- A member of another name changes nothing. -/
theorem Holds.concat_other : ∀ {α : Type} {d : Draft α}, d.Holds ms → name ∉ d.names → ∀ j,
    d.Holds (ms ++ [(name, j)])
  | _, .make _, _, _, _ => trivial
  | _, .field rest f found, h, hn, j => by
    obtain ⟨hrest, value, hms, hv⟩ := h
    have hn' : name ∉ rest.names ∧ name ≠ f.name := by simpa [names] using hn
    exact ⟨hrest.concat_other hn'.1 j, value, (filter_concat_other hn'.2 j).trans hms, hv⟩

theorem not_mem_names_of_accept {repeats : Bool} : ∀ {α : Type} {d : Draft α},
    d.accept repeats name j = none → name ∉ d.names
  | _, .make _, _ => List.not_mem_nil
  | _, .field rest f found, h => by
    unfold accept at h
    by_cases hf : f.name = name
    · rw [if_pos hf] at h
      split at h
      · cases h
      · split at h <;> cases h
    · rw [if_neg hf] at h
      cases hr : rest.accept repeats name j with
      | none =>
        have hn := not_mem_names_of_accept hr
        simp [names, hn, Ne.symm hf]
      | some r => cases r <;> simp [hr] at h

/-- A member that is taken is the first of its name, and one of a field that stays as it is. -/
theorem accept_cases {rest : Draft (β → α)} {f : RecordField β} {found : Option β}
    (h : (field rest f found).accept false name j = some (.ok d')) :
    (f.name = name ∧ found = none ∧ ∃ b, f.read j = .ok b ∧ d' = field rest f (some b)) ∨
    f.name ≠ name ∧ ∃ rest', rest.accept false name j = some (.ok rest') ∧
      d' = field rest' f found := by
  unfold accept at h
  by_cases hf : f.name = name
  · rw [if_pos hf] at h
    cases found with
    | some b => simp at h
    | none =>
      cases hr : f.read j with
      | error e => simp [hr] at h
      | ok b =>
        simp only [hr] at h
        cases h
        exact .inl ⟨hf, rfl, b, rfl, rfl⟩
  · rw [if_neg hf] at h
    cases hr : rest.accept false name j with
    | none => simp [hr] at h
    | some r =>
      cases r with
      | error e => simp [hr] at h
      | ok rest' =>
        simp only [hr] at h
        cases h
        exact .inr ⟨hf, rest', rfl, rfl⟩

theorem Always.accept : ∀ {α : Type} {d d' : Draft α} {p : Sources → α → Prop},
    d.accept false name j = some (.ok d') → d.Always p → d'.Always p
  | _, .make _, _, _, h, _ => by cases h
  | _, .field rest f found, _, _, h, ha => by
    rcases accept_cases h with ⟨-, -, b, -, rfl⟩ | ⟨-, rest', hr, rfl⟩
    · exact ha
    · exact Always.accept (d := rest) hr ha

theorem names_accept : ∀ {α : Type} {d d' : Draft α},
    d.accept false name j = some (.ok d') → d'.names = d.names
  | _, .make _, _, h => by cases h
  | _, .field rest f found, _, h => by
    rcases accept_cases h with ⟨-, -, b, -, rfl⟩ | ⟨-, rest', hr, rfl⟩
    · rfl
    · exact congrArg (· ++ [f.name]) (names_accept hr)

theorem Holds.accept : ∀ {α : Type} {d d' : Draft α}, d.Holds ms → d.names.Nodup →
    d.accept false name j = some (.ok d') → d'.Holds (ms ++ [(name, j)])
  | _, .make _, _, _, _, h => by cases h
  | _, .field rest f found, _, hd, hn, h => by
    obtain ⟨hrest, value, hms, hv⟩ := hd
    obtain ⟨hfresh, hrest'⟩ : f.name ∉ rest.names ∧ rest.names.Nodup := by
      rwa [names, List.nodup_append_comm, List.singleton_append, List.nodup_cons] at hn
    rcases accept_cases h with ⟨rfl, rfl, b, hb, rfl⟩ | ⟨hf, rest', hr, rfl⟩
    · -- the field had no value, so no member before had its name
      obtain rfl : value = none := Option.map_eq_none_iff.mp hv
      refine ⟨hrest.concat_other hfresh j, some j, ?_, congrArg some hb⟩
      rw [filter_concat_self, hms]
      rfl
    · exact ⟨hrest.accept hrest' hr, value, (filter_concat_other (Ne.symm hf) j).trans hms, hv⟩

/-- All members of an object have been read or passed over. -/
theorem holds_of_fill : ∀ (members : Members) {d d' : Draft α} {seen : Fields}, d.Holds seen →
    d.names.Nodup → d.Always p → d.fill false members = .ok d' →
    ∃ ms, members = .ofList ms ∧ d'.Holds (seen ++ ms) ∧ d'.Always p
  | .nil, _, _, _, hd, _, ha, h => by
    cases h
    exact ⟨[], rfl, (List.append_nil _).symm ▸ hd, ha⟩
  | .cut _ _, _, _, _, _, _, _, h => by cases h
  | .cons none _ _, _, _, _, _, _, _, h => by cases h
  | .cons (some key) value tail, d, d', seen, hd, hn, ha, h => by
    unfold fill at h
    cases hr : d.accept false key value with
    | none =>
      simp only [hr] at h
      cases hs : value.skipFault with
      | some fault => simp [hs] at h
      | none =>
        simp only [hs] at h
        have hd' := hd.concat_other (not_mem_names_of_accept hr) value
        obtain ⟨ms, rfl, hms, ha'⟩ := holds_of_fill tail hd' hn ha h
        exact ⟨(key, value) :: ms, rfl, by simpa using hms, ha'⟩
    | some r =>
      cases r with
      | error e => simp [hr] at h
      | ok d₁ =>
        simp only [hr] at h
        obtain ⟨ms, rfl, hms, ha'⟩ := holds_of_fill tail (hd.accept hn hr)
          ((names_accept hr).symm ▸ hn) (ha.accept hr) h
        exact ⟨(key, value) :: ms, rfl, by simpa using hms, ha'⟩

theorem sources_of_finish : ∀ {α : Type} {d : Draft α} {a : α} {p : Sources → α → Prop},
    d.Holds ms → d.Always p → d.finish = .ok a →
    ∃ sources, p sources a ∧
      ∀ x ∈ sources, ms.filter (·.1 = x.1) = x.2.toList.map (x.1, ·)
  | _, .make _, _, _, _, ha, h => by
    cases h
    exact ⟨[], ha, nofun⟩
  | _, .field rest f found, a, p, hd, ha, h => by
    obtain ⟨hrest, value, hms, hv⟩ := hd
    unfold finish at h
    cases hr : rest.finish with
    | error e => simp [hr] at h
    | ok make =>
      simp only [hr] at h
      obtain ⟨sources, hp, hsources⟩ := sources_of_finish hrest ha hr
      have taken : ∃ t : f.Taken, t.source = value ∧ make t.value = a := by
        cases value with
        | some j =>
          cases found with
          | none => cases hv
          | some b =>
            cases h
            exact ⟨.ofValue (Option.some.inj hv), rfl, rfl⟩
        | none =>
          cases found with
          | some b => cases hv
          | none =>
            cases hb : f.absent with
            | none => simp [hb] at h
            | some b =>
              simp only [hb] at h
              cases h
              exact ⟨.ofNone (.inl hb), rfl, rfl⟩
      obtain ⟨t, rfl, rfl⟩ := taken
      exact ⟨_, hp t, List.forall_mem_append.mpr ⟨hsources, List.forall_mem_singleton.mpr hms⟩⟩

/-! ### From an array -/

theorem foldr_cons (js : List Json) : js.foldr .cons .nil = Items.ofList js := by
  induction js with
  | nil => rfl
  | cons j js ih => rw [List.foldr_cons, ih, Items.ofList]

/-- The first fields have taken the items, and what follows them had none left. -/
theorem sources_of_place : ∀ {α : Type} {d : Draft α} {items left : Items} {a : α}
    {p : Sources → α → Prop}, d.Always p → d.place items = .ok (a, left) →
    ∃ (sources : Sources) (js : List Json) (missing : Nat), p sources a ∧
      sources.map (·.2) = js.map some ++ List.replicate missing none ∧
      items = js.foldr .cons left ∧ (missing = 0 ∨ left = .nil)
  | _, .make _, _, _, _, _, ha, h => by
    cases h
    exact ⟨[], [], 0, ha, rfl, rfl, .inl rfl⟩
  | _, .field rest f found, items, left, a, p, ha, h => by
    unfold place at h
    cases hr : rest.place items with
    | error e => simp [hr] at h
    | ok r =>
      obtain ⟨make, left'⟩ := r
      obtain ⟨sources, js, missing, hp, hsources, hitems, hleft⟩ := sources_of_place (d := rest) ha hr
      cases left' with
      | cut fault => simp [hr] at h
      | nil =>
        cases hb : f.unlisted with
        | none => simp [hr, hb] at h
        | some b =>
          simp only [hr, hb] at h
          cases h
          refine ⟨_, js, missing + 1, hp (.ofNone (.inr hb)), ?_, hitems, .inr rfl⟩
          rw [List.map_append, hsources, List.append_assoc, List.replicate_succ']
          rfl
      | cons head tail =>
        -- an item is left, so every field so far has one
        obtain rfl : missing = 0 := hleft.resolve_right (by simp)
        cases hb : f.read head with
        | error e => simp [hr, hb] at h
        | ok b =>
          simp only [hr, hb] at h
          cases h
          refine ⟨_, js ++ [head], 0, hp (.ofValue hb), ?_, ?_, .inl rfl⟩
          · rw [List.map_append, hsources]
            simp [RecordField.Taken.ofValue]
          · rw [hitems]
            simp

/-! ### From either -/

variable {slots : List Slot} {sources : Sources} {s : Slot}

theorem exists_source (h : Follows slots sources) {i : Nat} (hi : slots[i]? = some s) :
    ∃ x, sources[i]? = some x ∧ s.Fits x := by
  induction h generalizing i with
  | nil => cases hi
  | cons hx _ ih =>
    cases i with
    | zero =>
      obtain rfl := Option.some.inj hi
      exact ⟨_, rfl, hx⟩
    | succ i => exact ih hi

/-- The slots are told by items in their order, as far as there are items. -/
theorem told_in_order (h : Follows slots sources) {js : List Json} {missing : Nat}
    (hs : sources.map (·.2) = js.map some ++ List.replicate missing none) :
    js.length ≤ slots.length ∧ ∀ (i : Nat) (s : Slot), slots[i]? = some s → s.Told js[i]? := by
  constructor
  · have hl := congrArg List.length hs
    have hslots := h.length_eq
    simp only [List.length_map, List.length_append, List.length_replicate] at hl
    omega
  · intro i s hi
    obtain ⟨x, hx, -, htold⟩ := exists_source h hi
    have hvalue : (js.map some ++ List.replicate missing none)[i]? = some x.2 := by
      rw [← hs, List.getElem?_map, hx]
      rfl
    suffices hsame : x.2 = js[i]? from hsame ▸ htold
    by_cases hl : i < js.length
    · rw [List.getElem?_append_left (by simpa using hl), List.getElem?_map,
        List.getElem?_eq_getElem hl] at hvalue
      rw [List.getElem?_eq_getElem hl]
      exact (Option.some.inj hvalue).symm
    · rw [List.getElem?_append_right (by simpa using hl)] at hvalue
      rw [List.getElem?_eq_none (by omega)]
      exact List.eq_of_mem_replicate (List.mem_of_getElem? hvalue)

/-- A draft whose fields follow the slots reads what tells the slots. -/
theorem tells_of_read (slots : α → List Slot)
    (ha : d.Always fun sources a => Follows (slots a) sources) (hd : d.Holds [])
    (hn : d.names.Nodup) (h : d.read depth j = .ok a) : Tells (slots a) j := by
  cases j with
  | object members =>
    simp only [Draft.read] at h
    by_cases h0 : depth = 0
    · rw [if_pos h0] at h
      cases h
    rw [if_neg h0] at h
    cases hf : d.fill false members with
    | error e => simp [hf] at h
    | ok d' =>
      simp only [hf] at h
      obtain ⟨ms, rfl, hms, ha'⟩ := holds_of_fill members hd hn ha hf
      obtain ⟨sources, hfollows, hsources⟩ := sources_of_finish hms ha' h
      refine .inl ⟨ms, rfl, fun s hs => ?_⟩
      obtain ⟨i, hi⟩ := List.mem_iff_getElem?.mp hs
      obtain ⟨x, hx, hname, htold⟩ := exists_source hfollows hi
      exact ⟨x.2, hname ▸ hsources x (List.mem_of_getElem? hx), htold⟩
  | array items =>
    simp only [Draft.read] at h
    by_cases h0 : depth = 0
    · rw [if_pos h0] at h
      cases h
    rw [if_neg h0] at h
    split at h
    · cases h
    · next b hp =>
      cases h
      obtain ⟨sources, js, missing, hfollows, hsources, rfl, -⟩ := sources_of_place ha hp
      exact .inr ⟨js, congrArg Json.array (foldr_cons js), told_in_order hfollows hsources⟩
    · cases h
    · cases h
  | _ => cases h

end Draft

theorem read_of_readText {text : String} (h : readText read text = .ok a) :
    read (parse text).value = .ok a ∧ (parse text).trailing = false := by
  unfold readText at h
  simp only at h
  split at h
  · cases h
  · next b hb =>
    split at h
    · cases h
    · next htrailing =>
      cases h
      exact ⟨hb, Bool.eq_false_iff.mpr htrailing⟩

end ClusterOperator.Json
