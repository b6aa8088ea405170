import Mathlib.Data.List.Induction
import Mathlib.Data.List.Nodup
import ClusterOperator.Proofs.Resource.Conditions

/-!
# Verdicts one after another

Conditions that are set again and again tell of the last verdict on each kind, and since when its
status is what it is. A condition is where it was first, and so is every other one.
-/

namespace ClusterOperator.Resource.Team

/-- A verdict, for a generation and at a time of its own. -/
structure Setting where
  verdict : Verdict
  generation : Option Int64
  time : String
  deriving DecidableEq, Repr

def setAll (settings : List Setting) (cs : List Condition) : List Condition :=
  settings.foldl (fun cs s => setCondition s.verdict s.generation s.time cs) cs

def ofKind (kind : String) (settings : List Setting) : List Setting :=
  settings.filter (·.verdict.kind = kind)

def firstOf (kind : String) (cs : List Condition) : Option Condition := cs.find? (·.kind = kind)

/-- The kinds that are set for the first time, in their order. -/
def newKinds (cs : List Condition) (settings : List Setting) : List String :=
  (settings.map (·.verdict.kind)).eraseDups.filter fun kind => kind ∉ cs.map (·.kind)

/-- The status after settings of one kind, if there is such a condition by then. -/
def statusAfter (before? : Option Condition) (settings : List Setting) : Option String :=
  match settings.getLast? with
  | some s => some s.verdict.status
  | none => before?.map (·.status)

/-- What a condition has come to by settings of its kind. -/
structure Under (before? : Option Condition) (settings : List Setting) (c : Condition) : Prop where
  last : ∃ s, settings.getLast? = some s ∧ c.status = s.verdict.status ∧ c.reason = s.verdict.reason ∧
    c.message = s.verdict.message ∧ c.observedGeneration = s.generation
  /-- It has its status since a setting that changed it, or since before all of them. -/
  since : (∃ earlier s later, settings = earlier ++ s :: later ∧
      statusAfter before? earlier ≠ some c.status ∧ (∀ r ∈ s :: later, r.verdict.status = c.status) ∧
      c.lastTransitionTime = s.time) ∨
    ∃ b, before? = some b ∧ b.status = c.status ∧ (∀ r ∈ settings, r.verdict.status = c.status) ∧
      c.lastTransitionTime = b.lastTransitionTime

variable (v : Verdict) (generation : Option Int64) (now : String) {cs : List Condition}
  {settings : List Setting} {s : Setting} {c : Condition} {i : Nat} {kind : String}
  {before? : Option Condition}

/-! ## One verdict -/

theorem kinds_setCondition (cs : List Condition) :
    (setCondition v generation now cs).map (·.kind) =
      if v.kind ∈ cs.map (·.kind) then cs.map (·.kind) else cs.map (·.kind) ++ [v.kind] := by
  induction cs with
  | nil => simp [setCondition, Verdict.fresh]
  | cons c cs ih =>
    unfold setCondition
    by_cases hk : c.kind = v.kind
    · simp [hk]
    · rw [if_neg hk, List.map_cons, ih, List.map_cons]
      by_cases hm : v.kind ∈ cs.map (·.kind)
      · rw [if_pos hm, if_pos (List.mem_cons_of_mem _ hm)]
      · rw [if_neg hm, if_neg (by simpa [Ne.symm hk] using hm), List.cons_append]

theorem firstOf_setCondition (cs : List Condition) (kind : String) :
    firstOf kind (setCondition v generation now cs) =
      if v.kind = kind then
        some (match firstOf kind cs with
          | some c => c.judge v generation now
          | none => v.fresh generation now)
      else firstOf kind cs := by
  unfold firstOf
  induction cs with
  | nil =>
    by_cases hv : v.kind = kind <;> simp [setCondition, Verdict.fresh, hv]
  | cons c cs ih =>
    unfold setCondition
    by_cases hk : c.kind = v.kind
    · by_cases hv : v.kind = kind
      · simp [hk, hv]
      · simp [hk, hv]
    · by_cases hc : c.kind = kind
      · have hv : v.kind ≠ kind := fun hv => hk (hc.trans hv.symm)
        rw [if_neg hk, if_neg hv, List.find?_cons_of_pos (by simpa using hc)]
        exact (List.find?_cons_of_pos (by simpa using hc)).symm
      · rw [if_neg hk]
        simpa [hc] using ih

/-- A condition stays unless it is the first one of the kind. -/
theorem getElem?_setCondition (hi : cs[i]? = some c)
    (h : c.kind ∈ (cs.take i).map (·.kind) ∨ c.kind ≠ v.kind) :
    (setCondition v generation now cs)[i]? = some c := by
  induction cs generalizing i with
  | nil => cases hi
  | cons d cs ih =>
    unfold setCondition
    cases i with
    | zero =>
      obtain rfl : d = c := by simpa using hi
      have hk : d.kind ≠ v.kind := by simpa using h
      rw [if_neg hk]
      rfl
    | succ i =>
      have hi : cs[i]? = some c := by simpa using hi
      split
      · exact hi
      · next hd =>
        refine ih hi ?_
        rcases h with h | h
        · simp only [List.take_succ_cons, List.map_cons, List.mem_cons] at h
          rcases h with h | h
          · exact .inr (h ▸ hd)
          · exact .inl h
        · exact .inr h

/-! ## One condition under its verdicts -/

theorem Under.statusAfter (h : Under before? settings c) :
    statusAfter before? settings = some c.status := by
  obtain ⟨s, hs, hstatus, -⟩ := h.last
  simp [Team.statusAfter, hs, hstatus]

theorem Under.first (s : Setting) (before? : Option Condition) :
    Under before? [s] (match before? with
      | some b => b.judge s.verdict s.generation s.time
      | none => s.verdict.fresh s.generation s.time) := by
  cases before? with
  | none =>
    exact ⟨⟨s, rfl, rfl, rfl, rfl, rfl⟩,
      .inl ⟨[], s, [], rfl, by simp [Team.statusAfter], by simp [Verdict.fresh], rfl⟩⟩
  | some b =>
    refine ⟨⟨s, rfl, rfl, rfl, rfl, rfl⟩, ?_⟩
    by_cases hb : b.status = s.verdict.status
    · refine .inr ⟨b, rfl, hb, by simp [Condition.judge], ?_⟩
      exact if_pos hb
    · refine .inl ⟨[], s, [], rfl, ?_, by simp [Condition.judge], if_neg hb⟩
      simpa [Team.statusAfter, Condition.judge] using hb

theorem Under.next (h : Under before? settings c) (s : Setting) :
    Under before? (settings ++ [s]) (c.judge s.verdict s.generation s.time) := by
  refine ⟨⟨s, by simp, rfl, rfl, rfl, rfl⟩, ?_⟩
  by_cases hc : c.status = s.verdict.status
  · have htime : (c.judge s.verdict s.generation s.time).lastTransitionTime = c.lastTransitionTime :=
      if_pos hc
    have hstatus : (c.judge s.verdict s.generation s.time).status = c.status := hc.symm
    rw [htime, hstatus]
    rcases h.since with ⟨earlier, t, later, rfl, hne, hall, ht⟩ | ⟨b, hb, hstatus, hall, ht⟩
    · refine .inl ⟨earlier, t, later ++ [s], by simp, hne, fun r hr => ?_, ht⟩
      rcases List.mem_append.mp (show r ∈ (t :: later) ++ [s] from hr) with hr | hr
      · exact hall r hr
      · exact List.mem_singleton.mp hr ▸ hc.symm
    · refine .inr ⟨b, hb, hstatus, fun r hr => ?_, ht⟩
      rcases List.mem_append.mp hr with hr | hr
      · exact hall r hr
      · exact List.mem_singleton.mp hr ▸ hc.symm
  · refine .inl ⟨settings, s, [], rfl, ?_, by simp [Condition.judge], if_neg hc⟩
    rw [h.statusAfter]
    exact fun heq => hc (Option.some.inj heq)

/-! ## All verdicts -/

theorem setAll_concat (settings : List Setting) (s : Setting) (cs : List Condition) :
    setAll (settings ++ [s]) cs =
      setCondition s.verdict s.generation s.time (setAll settings cs) := by
  simp [setAll]

theorem ofKind_concat (kind : String) (settings : List Setting) (s : Setting) :
    ofKind kind (settings ++ [s]) = ofKind kind settings ++ if s.verdict.kind = kind then [s] else [] := by
  by_cases h : s.verdict.kind = kind <;> simp [ofKind, h]

theorem newKinds_concat (cs : List Condition) (settings : List Setting) (s : Setting) :
    newKinds cs (settings ++ [s]) = newKinds cs settings ++
      if s.verdict.kind ∈ cs.map (·.kind) ++ newKinds cs settings then [] else [s.verdict.kind] := by
  unfold newKinds
  rw [List.map_append, List.map_singleton, List.eraseDups_append, List.filter_append]
  generalize settings.map (·.verdict.kind) = seen
  generalize cs.map (·.kind) = kinds
  generalize s.verdict.kind = kind
  congr 1
  by_cases hs : kind ∈ seen <;> by_cases hk : kind ∈ kinds <;>
    simp [List.removeAll, List.eraseDups_cons, hs, hk]

theorem kinds_setAll (settings : List Setting) (cs : List Condition) :
    (setAll settings cs).map (·.kind) = cs.map (·.kind) ++ newKinds cs settings := by
  induction settings using List.reverseRecOn with
  | nil => simp [setAll, newKinds]
  | append_singleton settings s ih =>
    rw [setAll_concat, kinds_setCondition, ih, newKinds_concat]
    split
    · rw [List.append_nil]
    · rw [List.append_assoc]

theorem nodup_setAll (h : (cs.map (·.kind)).Nodup) : ((setAll settings cs).map (·.kind)).Nodup := by
  induction settings using List.reverseRecOn with
  | nil => exact h
  | append_singleton settings s ih =>
    rw [setAll_concat, kinds_setCondition]
    split
    · exact ih
    · next hs =>
      rw [← List.concat_eq_append]
      exact ih.concat hs

theorem getElem?_setAll (hi : cs[i]? = some c)
    (h : c.kind ∈ (cs.take i).map (·.kind) ∨ ofKind c.kind settings = []) :
    (setAll settings cs)[i]? = some c := by
  induction settings using List.reverseRecOn with
  | nil => exact hi
  | append_singleton settings s ih =>
    rw [ofKind_concat, List.append_eq_nil_iff] at h
    rw [setAll_concat]
    refine getElem?_setCondition _ _ _ (ih (h.imp_right And.left)) ?_
    rcases h with h | ⟨-, h⟩
    · -- those before it are of the same kinds still
      have hlen : i ≤ (cs.map (·.kind)).length := by
        rw [List.length_map]
        exact Nat.le_of_lt (List.getElem?_eq_some_iff.mp hi).1
      left
      rw [List.map_take, kinds_setAll, List.take_append_of_le_length hlen, ← List.map_take]
      exact h
    · exact .inr fun heq => by simp [heq] at h

theorem firstOf_setAll (kind : String) (settings : List Setting) (cs : List Condition) :
    (ofKind kind settings = [] ∧ firstOf kind (setAll settings cs) = firstOf kind cs) ∨
      ∃ c, firstOf kind (setAll settings cs) = some c ∧
        Under (firstOf kind cs) (ofKind kind settings) c := by
  induction settings using List.reverseRecOn with
  | nil => exact .inl ⟨rfl, rfl⟩
  | append_singleton settings s ih =>
    rw [setAll_concat, firstOf_setCondition, ofKind_concat]
    by_cases hs : s.verdict.kind = kind
    · rw [if_pos hs, if_pos hs]
      refine .inr ⟨_, rfl, ?_⟩
      rcases ih with ⟨hnil, hsame⟩ | ⟨c, hc, hu⟩
      · rw [hnil, hsame]
        exact Under.first s _
      · rw [hc]
        exact hu.next s
    · rw [if_neg hs, if_neg hs, List.append_nil]
      exact ih

/-- Conditions after any settings: those that are not the first of a kind that was set are where
and what they were, new kinds are added in their order, and the first one of each kind that was
set is under these settings. -/
theorem conditions_under_settings (cs : List Condition) (settings : List Setting) :
    (∀ i c, cs[i]? = some c → c.kind ∈ (cs.take i).map (·.kind) ∨ ofKind c.kind settings = [] →
      (setAll settings cs)[i]? = some c) ∧
    (setAll settings cs).map (·.kind) = cs.map (·.kind) ++ newKinds cs settings ∧
    ((cs.map (·.kind)).Nodup → ((setAll settings cs).map (·.kind)).Nodup) ∧
    ∀ kind, ofKind kind settings ≠ [] → ∃ c, firstOf kind (setAll settings cs) = some c ∧
      Under (firstOf kind cs) (ofKind kind settings) c := by
  refine ⟨fun i c hi h => getElem?_setAll hi h, kinds_setAll settings cs, nodup_setAll,
    fun kind hk => ?_⟩
  rcases firstOf_setAll kind settings cs with ⟨hnil, -⟩ | h
  · exact absurd hnil hk
  · exact h

/-- Two conditions of one kind. -/
def repeated : List Condition :=
  [⟨"Synced", "True", "old", "", "09:00", some 1⟩, ⟨"Synced", "False", "odd", "", "08:00", none⟩]

/-- The status turns at ten and stays, while the rest changes, and a new kind comes up. -/
def turns : List Setting :=
  [⟨⟨"Synced", "True", "a", "first"⟩, some 2, "09:30"⟩, ⟨⟨"Synced", "False", "b", ""⟩, some 3, "10:00"⟩,
    ⟨⟨"Ready", "True", "c", ""⟩, some 3, "10:10"⟩, ⟨⟨"Synced", "False", "d", "last"⟩, none, "10:20"⟩]

theorem conditions_under_settings_turns :
    setAll turns repeated = [⟨"Synced", "False", "d", "last", "10:00", none⟩,
      ⟨"Synced", "False", "odd", "", "08:00", none⟩, ⟨"Ready", "True", "c", "", "10:10", some 3⟩] ∧
    (setAll turns repeated)[1]? = repeated[1]? ∧
    ∃ c, firstOf "Synced" (setAll turns repeated) = some c ∧
      Under (firstOf "Synced" repeated) (ofKind "Synced" turns) c := by
  obtain ⟨hothers, -, -, hfirst⟩ := conditions_under_settings repeated turns
  exact ⟨by decide, hothers 1 _ rfl (.inl (by decide)), hfirst "Synced" (by decide)⟩

end ClusterOperator.Resource.Team
