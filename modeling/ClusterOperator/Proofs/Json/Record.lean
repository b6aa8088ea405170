import ClusterOperator.Json.Record
import ClusterOperator.Proofs.Json.Text

/-!
# Records that are read as what was written

A record is read back from its members if each of its fields is, or is left out where its
absence stands for its value.
-/

namespace ClusterOperator.Json

variable {α β : Type} {a : α} {b : β} {j : Json} {depth : Nat}

/-- The value is read as `a`, and so is its text. -/
structure Carries (read : Read α) (j : Json) (a : α) : Prop where
  read_eq : read j = .ok a
  plain : j.Plain

theorem Carries.readText {read : Read α} (h : Carries read j a) :
    readText read j.render = .ok a := by
  unfold Json.readText
  rw [parse_render h.plain]
  simp [h.read_eq]

/-! ## Single values -/

theorem carries_string (s : String) : Carries readString (.string s) s := ⟨rfl, trivial⟩

theorem carries_bool (b : Bool) : Carries readBool (.bool b) b := ⟨rfl, trivial⟩

theorem readInt_int {lo hi i : Int} (h : lo ≤ i ∧ i ≤ hi) : readInt lo hi (.int i) = .ok i := by
  simp [readInt, int, h]

theorem carries_int32 (i : Int32) : Carries readInt32 (.int i.toInt) i := by
  have hl := i.le_toInt
  have hu := i.toInt_lt
  constructor
  · unfold readInt32
    rw [readInt_int (by omega)]
    simp
  · show Word i.toInt
    unfold Word
    omega

theorem carries_int64 (i : Int64) : Carries readInt64 (.int i.toInt) i := by
  have hl := i.le_toInt
  have hu := i.toInt_lt
  constructor
  · unfold readInt64
    rw [readInt_int (by omega)]
    simp
  · show Word i.toInt
    unfold Word
    omega

theorem carries_uint64 (n : UInt64) : Carries readUInt64 (.int n.toNat) n := by
  have hu := n.toNat_lt
  constructor
  · unfold readUInt64
    rw [readInt_int (by omega)]
    simp
  · show Word n.toNat
    unfold Word
    omega

theorem Carries.some {read : Read α} (h : Carries read j a) (hn : j ≠ .null) :
    Carries (readOption read) j (some a) := by
  refine ⟨?_, h.plain⟩
  unfold readOption
  split
  · exact absurd rfl hn
  · rw [h.read_eq]
    rfl

theorem carries_none {read : Read α} : Carries (readOption read) .null none := ⟨rfl, trivial⟩

/-! ## Lists -/

theorem readItemsWith_map {read : Read α} {write : α → Json} {as : List α}
    (h : ∀ a ∈ as, Carries read (write a) a) :
    readItemsWith read (.ofList (as.map write)) = .ok as := by
  induction as with
  | nil => rfl
  | cons a as ih =>
    have ha := (h a List.mem_cons_self).read_eq
    have has := ih fun a ha => h a (List.mem_cons_of_mem _ ha)
    simp [Items.ofList, readItemsWith, ha, has]

theorem plain_items {write : α → Json} {as : List α} (h : ∀ a ∈ as, (write a).Plain) :
    (Items.ofList (as.map write)).Plain := by
  induction as with
  | nil => trivial
  | cons a as ih =>
    exact ⟨h a List.mem_cons_self, ih fun a ha => h a (List.mem_cons_of_mem _ ha)⟩

theorem carries_list {read : Read α} {write : α → Json} {as : List α} (hd : depth ≠ 0)
    (h : ∀ a ∈ as, Carries read (write a) a) :
    Carries (readList depth read) (.arr (as.map write)) as := by
  constructor
  · show (if depth = 0 then _ else _) = _
    rw [if_neg hd]
    exact readItemsWith_map h
  · exact plain_items fun a ha => (h a ha).plain

/-! ## Records -/

/-- No member has the name. -/
def Fresh (name : String) (ms : Fields) : Prop := ∀ m ∈ ms, m.1 ≠ name

variable {name : String} {ms : Fields}

@[simp] theorem fresh_nil : Fresh name [] := by simp [Fresh]

@[simp] theorem fresh_cons {m : String × Json} :
    Fresh name (m :: ms) ↔ m.1 ≠ name ∧ Fresh name ms := by
  simp [Fresh]

@[simp] theorem fresh_append {ms' : Fields} :
    Fresh name (ms ++ ms') ↔ Fresh name ms ∧ Fresh name ms' := by
  unfold Fresh
  exact List.forall_mem_append

@[simp] theorem fresh_optional {other : String} {value : Option α} {write : α → Json}
    (h : other ≠ name) : Fresh name (Json.optional other value write) := by
  cases value <;> simp [Json.optional, h]

@[simp] theorem fresh_unless {p : Prop} [Decidable p] (h : Fresh name ms) :
    Fresh name (if p then [] else ms) := by
  split <;> simp [h]

namespace Draft

variable {rest : Draft (β → α)} {f : RecordField β} {g : β → α}

/-- Members of other names go to the fields before the last. -/
theorem fill_field {rep : Bool} {found : Option β} (h : Fresh f.name ms) :
    (Draft.field rest f found).fill rep (.ofList ms) =
      match rest.fill rep (.ofList ms) with
      | .ok d => .ok (.field d f found)
      | .error e => .error e := by
  induction ms generalizing rest with
  | nil => rfl
  | cons m ms ih =>
    have hm : f.name ≠ m.1 := (h m List.mem_cons_self).symm
    have hms : Fresh f.name ms := fun m hm => h m (List.mem_cons_of_mem _ hm)
    simp only [Members.ofList, fill, accept, if_neg hm]
    cases rest.accept rep m.1 m.2 with
    | none =>
      cases m.2.skipFault with
      | none => exact ih hms
      | some fault => rfl
    | some r =>
      cases r with
      | ok d => exact ih hms
      | error e => rfl

theorem fill_concat {d : Draft α} {rep : Bool} {m : String × Json} :
    d.fill rep (.ofList (ms ++ [m])) =
      match d.fill rep (.ofList ms) with
      | .ok d => d.fill rep (.ofList [m])
      | .error e => .error e := by
  induction ms generalizing d with
  | nil => rfl
  | cons m' ms ih =>
    simp only [List.cons_append, Members.ofList, fill]
    cases d.accept rep m'.1 m'.2 with
    | none =>
      cases m'.2.skipFault with
      | none => exact ih
      | some fault => rfl
    | some r =>
      cases r with
      | ok d => exact ih
      | error e => rfl

/-- The members carry what makes `a`, each field's after those of the fields before it. -/
inductive Fills : {α : Type} → Draft α → Fields → α → Prop
  | make {α : Type} (a : α) : Fills (.make a) [] a
  | given {α β : Type} {rest : Draft (β → α)} {f : RecordField β} {ms : Fields} {g : β → α}
    {j : Json} {b : β} : Fills rest ms g → Fresh f.name ms → Carries f.read j b →
    Fills (rest.and f) (ms ++ [(f.name, j)]) (g b)
  | leftOut {α β : Type} {rest : Draft (β → α)} {f : RecordField β} {ms : Fields} {g : β → α}
    {b : β} : Fills rest ms g → Fresh f.name ms → f.absent = some b →
    Fills (rest.and f) ms (g b)

theorem Fills.fill {d : Draft α} (h : Fills d ms a) :
    ∃ d', d.fill false (.ofList ms) = .ok d' ∧ d'.finish = .ok a := by
  induction h with
  | make a => exact ⟨_, rfl, rfl⟩
  | @given _ _ _ f _ _ _ b _ hn hj ih =>
    obtain ⟨d', hf, hm⟩ := ih
    refine ⟨.field d' f (some b), ?_, ?_⟩
    · unfold Draft.and
      rw [fill_concat, fill_field hn, hf]
      simp [Members.ofList, Draft.fill, accept, hj.read_eq]
    · simp [finish, hm]
  | @leftOut _ _ _ f _ _ _ _ hn hb ih =>
    obtain ⟨d', hf, hm⟩ := ih
    refine ⟨.field d' f none, ?_, ?_⟩
    · unfold Draft.and
      rw [fill_field hn, hf]
    · simp [finish, hm, hb]

theorem Fills.plain {d : Draft α} (h : Fills d ms a) : (Json.obj ms).Plain := by
  have concat : ∀ (ms : Fields) (m : String × Json), (Json.obj ms).Plain → m.2.Plain →
      (Json.obj (ms ++ [m])).Plain := by
    intro ms m hms hm
    induction ms with
    | nil => exact ⟨hm, trivial⟩
    | cons m' ms ih => exact ⟨hms.1, ih hms.2⟩
  induction h with
  | make a => trivial
  | given _ _ hj ih => exact concat _ _ ih hj.plain
  | leftOut _ _ _ ih => exact ih

theorem Fills.carries {d : Draft α} {ms' : Fields} (hd : depth ≠ 0) (h : Fills d ms a)
    (hms : ms = ms') : Carries (d.read depth) (.obj ms') a := by
  subst hms
  obtain ⟨d', hf, hm⟩ := h.fill
  refine ⟨?_, h.plain⟩
  unfold Json.obj Draft.read
  simp only [if_neg hd, hf, hm]

theorem Fills.required {read : Read β} (h : Fills rest ms g)
    (hn : Fresh name ms) (hj : Carries read j b) :
    Fills (rest.and (.required name read)) (ms ++ [(name, j)]) (g b) :=
  .given h hn hj

theorem Fills.optional {read : Read β} {absent : β} (h : Fills rest ms g)
    (hn : Fresh name ms) (hj : Carries read j b) :
    Fills (rest.and (.optional name read absent)) (ms ++ [(name, j)]) (g b) :=
  .given h hn hj

/-- A field that is left out when it has no value. -/
theorem Fills.option {read : Read β} {write : β → Json} {g : Option β → α}
    {rest : Draft (Option β → α)} {value : Option β} (h : Fills rest ms g)
    (hn : Fresh name ms) (hj : ∀ b, Carries (readOption read) (write b) (some b)) :
    Fills (rest.and (.optional name (readOption read) none))
      (ms ++ Json.optional name value write) (g value) := by
  cases value with
  | some b => exact .given h hn (hj b)
  | none =>
    rw [Json.optional, List.append_nil]
    exact .leftOut h hn rfl

/-- A field that is left out when it is empty. -/
theorem Fills.unlessEmpty {read : Read β} {empty : Bool} {absent b : β}
    (h : Fills rest ms g) (hn : Fresh name ms) (he : empty = true → absent = b)
    (hj : Carries read j b) :
    Fills (rest.and (.optional name read absent))
      (ms ++ if empty then [] else [(name, j)]) (g b) := by
  cases empty with
  | true =>
    simp only [if_true, List.append_nil]
    exact .leftOut h hn (congrArg some (he rfl))
  | false => exact .given h hn hj

end Draft

end ClusterOperator.Json
