import Mathlib.Data.List.DropRight
import ClusterOperator.Proofs.Reconcile.Tally

/-!
# Failures in a row

Passes, and the policy that is asked about failed ones, in the order in which they end. Under
an object's key it is counted how often the policy was asked about it since the last pass over
it that succeeded. Losing a race is no success, and no failure either.
-/

namespace ClusterOperator.Reconcile

open Resource (Cluster ObjectKey Metadata)
open Program

/-! ## Keys -/

/-- Has a text that no other key has. -/
def Plain (key : ObjectKey) : Prop := '/' ∉ key.ns.toList ∧ '/' ∉ key.name.toList

instance (key : ObjectKey) : Decidable (Plain key) :=
  inferInstanceAs (Decidable ('/' ∉ key.ns.toList ∧ '/' ∉ key.name.toList))

theorem Plain.eq_of_text {key other : ObjectKey} (hk : Plain key) (h : key.text = other.text) :
    key = other := by
  have hc := congrArg String.toList h
  simp only [ObjectKey.text, String.toList_append, List.append_assoc] at hc
  -- the one slash of the text is that between the parts
  obtain ⟨hns, -, hname⟩ := (List.append_cons_inj_of_notMem hk.1 hk.2).mp hc
  obtain ⟨ns, name⟩ := key
  obtain rfl := String.toList_inj.mp hns
  obtain rfl := String.toList_inj.mp hname
  rfl

/-! ## Counts -/

namespace Failures

variable (f : Failures) {key other : String}

theorem lookup_filter_ne (h : other ≠ key) (counts : List (String × Nat)) :
    (counts.filter (·.1 ≠ key)).lookup other = counts.lookup other := by
  induction counts with
  | nil => rfl
  | cons x counts ih =>
    obtain ⟨k, n⟩ := x
    by_cases hk : k = key
    · subst hk
      have hne : (other == k) = false := by simpa using h
      rw [List.filter_cons_of_neg (by simp), ih, List.lookup_cons, hne]
    · rw [List.filter_cons_of_pos (by simpa using hk), List.lookup_cons, List.lookup_cons, ih]

theorem count_clear_self : (f.clear key).count key = 0 := by
  have h : (f.counts.filter (·.1 ≠ key)).lookup key = .none := by
    rw [List.lookup_eq_none_iff]
    intro x hx
    simpa using Ne.symm (by simpa using (List.mem_filter.mp hx).2)
  rw [count, clear, h, Option.getD_none]

theorem count_clear_of_ne (h : other ≠ key) : (f.clear key).count other = f.count other := by
  rw [count, clear, lookup_filter_ne h, ← count]

theorem count_record_self : (f.record key).count key = oneMore (f.count key) := by
  rw [count, record, List.lookup_cons_self, Option.getD_some]

theorem count_record_of_ne (h : other ≠ key) : (f.record key).count other = f.count other := by
  have hne : (other == key) = false := by simpa using h
  rw [← count_clear_of_ne f h, count, record, List.lookup_cons, hne, ← count]

/-- What a pass is told matters to the counts if it is a note that it succeeded. -/
def hear (f : Failures) (x : Exchange Answer) : Failures :=
  match x.question with
  | .note n => Simulation.forgive n f
  | _ => f

end Failures

/-! ## Passes -/

variable {s : Settings} {c : Cluster} {phase : Phase} {t told : List (Exchange Answer)}
  {key : ObjectKey} {event : Metadata} {result : Except Error Action} {f f' : Failures} {n : Note}

/-- Of the notes of a pass, those that it leaves while it works. -/
def TellsMoves (q : Question) : Prop := ∀ n, q = .note n → ∃ source target, n = .moved source target

theorem Enters.tellsMoves {q : Question} (h : Enters c phase t q) : TellsMoves q := by
  cases h with
  | now => exact nofun
  | write => exact nofun
  | note =>
    intro n hn
    cases hn
    exact ⟨_, _, rfl⟩

theorem Takes.tellsMoves {d : Provider.ClusterDetail} {q : Question} (h : Takes c d t q) :
    TellsMoves q := by
  cases h with
  | role => exact nofun
  | now => exact nofun
  | write => exact nofun
  | note _ =>
    intro n hn
    cases hn
    exact ⟨_, _, rfl⟩

theorem Inquires.tellsMoves {q : Question} (h : Inquires s c t q) : TellsMoves q := by
  cases h with
  | mark _ _ _ he => exact he.tellsMoves
  | guardedSetup _ _ he => exact he.tellsMoves
  | setup _ _ _ he => exact he.tellsMoves
  | created _ _ _ _ he => exact he.tellsMoves
  | observed _ _ _ _ ht => exact ht.tellsMoves
  | clear _ _ _ => exact nofun
  | release _ _ _ => exact nofun
  | guard _ _ => exact nofun
  | team _ _ _ => exact nofun
  | create _ _ _ => exact nofun
  | byId _ _ _ => exact nofun
  | byName _ _ _ => exact nofun

theorem only_body_moves : Only TellsMoves (body s key).run := by
  intro told q h
  rcases inquires_body h with ⟨-, rfl⟩ | ⟨c, t, -, hi⟩
  · exact nofun
  · exact hi.tellsMoves

theorem foldl_hear_moves (h : ∀ x ∈ t, TellsMoves x.question) : t.foldl Failures.hear f = f := by
  induction t with
  | nil => rfl
  | cons x t ih =>
    have hx : f.hear x = f := by
      obtain ⟨q, a⟩ := x
      cases q with
      | note n =>
        obtain ⟨source, target, rfl⟩ := h _ List.mem_cons_self n rfl
        rfl
      | _ => rfl
    rw [List.foldl_cons, hx, ih fun y hy => h y (List.mem_cons_of_mem _ hy)]

/-- A pass clears the count of its object if it succeeds and did not lose a race, and leaves
all counts as they are otherwise. -/
theorem foldl_hear_pass (h : Ends (reconcile s event) told result) :
    told.foldl Failures.hear f =
      if (Call.mk event.key told result).succeeded then f.clear event.key.text else f := by
  cases hn : event.ns with
  | none =>
    unfold reconcile at h
    rw [hn] at h
    obtain ⟨rfl, rfl⟩ := ends_done.mp h
    rfl
  | some ns =>
    obtain ⟨r, u, login, v, rfl, hb, hv⟩ := reconcile_parts hn h
    have hs := (ends_body hb).settles hv
    have hu : u.foldl Failures.hear f = f :=
      foldl_hear_moves fun x hx => only_body_moves.hears hb.hears hx
    rw [Call.succeeded, hs.lostRace, List.foldl_append, hu]
    cases hs with
    | succeeded hl => simp [hl, Except.isOk, Except.toBool, Failures.hear, Simulation.forgive]
    | raced hl => simp [hl, Failures.hear, Simulation.forgive]
    | failed _ => simp [Except.isOk, Except.toBool, Failures.hear, Simulation.forgive]

/-! ## In the order in which they end -/

/-- A pass, or a question to the policy with the delay that it asked for. -/
inductive Occasion where
  | pass (call : Call)
  | policy (schedule : Backoff) (key : ObjectKey) (error : Error) (draw : Float) (delay : Span)

namespace Occasion

def object : Occasion → ObjectKey
  | .pass call => call.key
  | .policy _ key _ _ _ => key

/-- Ends a row of failures of the object. -/
def forgives (key : ObjectKey) : Occasion → Bool
  | .pass call => call.key = key && call.succeeded
  | .policy .. => false

/-- Is one failure more of the object. -/
def blames (key : ObjectKey) : Occasion → Bool
  | .pass _ => false
  | .policy _ other _ _ _ => other = key

/-- A pass that ended with a lost race. -/
def raced : Occasion → Bool
  | .pass call => call.result.isOk && lostRace call.told
  | .policy .. => false

theorem forgives_of_raced {o : Occasion} (h : o.raced) : o.forgives key = false := by
  cases o with
  | pass call =>
    have hl : lostRace call.told := (Bool.and_eq_true_iff.mp h).2
    simp [forgives, Call.succeeded, hl]
  | policy => rfl

theorem blames_of_raced {o : Occasion} (h : o.raced) : o.blames key = false := by
  cases o with
  | pass call => rfl
  | policy => cases h

theorem forgives_of_ne {o : Occasion} (h : o.object ≠ key) : o.forgives key = false := by
  cases o with
  | pass call =>
    have hc : call.key ≠ key := h
    simp [forgives, hc]
  | policy => rfl

theorem blames_of_ne {o : Occasion} (h : o.object ≠ key) : o.blames key = false := by
  cases o with
  | pass call => rfl
  | policy => exact decide_eq_false h

end Occasion

/-- What is left open in a pass are the answers, so passes may overlap: the counts are only
touched when one ends. -/
inductive Occurs : Failures → Occasion → Failures → Prop
  | pass {f : Failures} {s : Settings} {event : Metadata} {told : List (Exchange Answer)}
      {result : Except Error Action} : Ends (reconcile s event) told result →
    Occurs f (.pass ⟨event.key, told, result⟩) (told.foldl Failures.hear f)
  | policy {f : Failures} {schedule : Backoff} {event : Metadata} {e : Error} {draw : Float} :
    Occurs f (.policy schedule event.key e draw (errorPolicy schedule f event e draw).1)
      (errorPolicy schedule f event e draw).2

inductive Passing : Failures → List Occasion → Failures → Prop
  | none {f : Failures} : Passing f [] f
  | next {f f' f'' : Failures} {o : Occasion} {before : List Occasion} : Passing f before f' →
    Occurs f' o f'' → Passing f (before ++ [o]) f''

/-- How often the policy was asked about an object since the last pass over it that
succeeded. -/
def inARow (key : ObjectKey) (occasions : List Occasion) : Nat :=
  (occasions.rtakeWhile fun o => !o.forgives key).countP (·.blames key)

theorem inARow_concat (before : List Occasion) (o : Occasion) : inARow key (before ++ [o]) =
    if o.forgives key then 0 else inARow key before + if o.blames key then 1 else 0 := by
  unfold inARow
  by_cases ho : o.forgives key
  · rw [List.rtakeWhile_concat_neg _ _ _ (by simp [ho]), if_pos ho, List.countP_nil]
  · rw [List.rtakeWhile_concat_pos _ _ _ (by simp [ho]), if_neg ho, List.countP_append,
      List.countP_singleton]

/-- What one occasion does to the count of an object. -/
theorem Occurs.count {o : Occasion} (h : Occurs f o f') (hk : Plain key) : f'.count key.text =
    if o.forgives key then 0
    else if o.blames key then oneMore (f.count key.text) else f.count key.text := by
  cases h with
  | @pass s event told result he =>
    rw [foldl_hear_pass he]
    by_cases hs : (Call.mk event.key told result).succeeded
    · rw [if_pos hs]
      by_cases ho : event.key = key
      · subst ho
        simp [Occasion.forgives, hs, f.count_clear_self]
      · rw [Failures.count_clear_of_ne f fun ht => ho (hk.eq_of_text ht).symm]
        simp [Occasion.forgives, Occasion.blames, ho]
    · rw [if_neg hs]
      simp [Occasion.forgives, Occasion.blames, hs]
  | @policy schedule event e draw =>
    simp only [errorPolicy, Occasion.forgives, Occasion.blames]
    by_cases ho : event.key = key
    · simp [ho, f.count_record_self]
    · rw [Failures.count_record_of_ne f fun ht => ho (hk.eq_of_text ht).symm]
      simp [ho]

theorem Occurs.delay {schedule : Backoff} {e : Error} {draw : Float} {delay : Span}
    (h : Occurs f (.policy schedule key e draw delay) f') :
    delay = if e.isRetryable then schedule.delay (f.count key.text) draw else schedule.max := by
  cases h with
  | policy => rfl

theorem Passing.count {occasions : List Occasion} (h : Passing .none occasions f)
    (hk : Plain key) : f.count key.text = min (inARow key occasions) maxFailures := by
  induction h with
  | none => rfl
  | @next f' f'' o before _ ho ih =>
    rw [ho.count hk, ih, inARow_concat]
    by_cases hf : o.forgives key
    · simp [hf]
    · by_cases hb : o.blames key
      · simp [hf, hb, oneMore_min]
      · simp [hf, hb]

theorem Passing.concat_inv {before : List Occasion} {o : Occasion}
    (h : Passing f (before ++ [o]) f') : ∃ f₁, Passing f before f₁ ∧ Occurs f₁ o f' := by
  generalize hl : before ++ [o] = l at h
  cases h with
  | none => simp at hl
  | next hb ho =>
    obtain ⟨rfl, he⟩ := List.append_inj' hl rfl
    obtain rfl := List.singleton_inj.mp he
    exact ⟨_, hb, ho⟩

theorem Passing.split {before after : List Occasion} {o : Occasion}
    (h : Passing f (before ++ o :: after) f') :
    ∃ f₁ f₂, Passing f before f₁ ∧ Occurs f₁ o f₂ ∧ Passing f₂ after f' := by
  induction after using List.reverseRecOn generalizing f' with
  | nil =>
    obtain ⟨f₁, hb, ho⟩ := h.concat_inv
    exact ⟨f₁, f', hb, ho, .none⟩
  | append_singleton after o' ih =>
    rw [← List.cons_append, ← List.append_assoc] at h
    obtain ⟨f₃, hb, ho⟩ := h.concat_inv
    obtain ⟨f₁, f₂, h₁, h₂, h₃⟩ := ih hb
    exact ⟨f₁, f₂, h₁, h₂, .next h₃ ho⟩

/-- The count of an object is how often the policy was asked about it since its last success,
up to the largest count that there is. A lost race leaves it, and so does what happens to other
objects. The policy goes by the count before it was asked. -/
theorem failures_in_a_row {occasions : List Occasion} (h : Passing .none occasions f)
    (hk : Plain key) :
    f.count key.text = min (inARow key occasions) maxFailures ∧
      ∀ before o after, occasions = before ++ o :: after → ∃ f₁ f₂,
        Passing .none before f₁ ∧ Occurs f₁ o f₂ ∧ Passing f₂ after f ∧
        f₁.count key.text = min (inARow key before) maxFailures ∧
        (o.raced ∨ o.object ≠ key → f₂.count key.text = f₁.count key.text) ∧
        ∀ schedule e draw delay, o = .policy schedule key e draw delay →
          delay = if e.isRetryable then schedule.delay (f₁.count key.text) draw
            else schedule.max := by
  refine ⟨h.count hk, ?_⟩
  rintro before o after rfl
  obtain ⟨f₁, f₂, h₁, ho, h₂⟩ := h.split
  refine ⟨f₁, f₂, h₁, ho, h₂, h₁.count hk, ?_, ?_⟩
  · intro hr
    have hf : o.forgives key = false := hr.elim Occasion.forgives_of_raced Occasion.forgives_of_ne
    have hb : o.blames key = false := hr.elim Occasion.blames_of_raced Occasion.blames_of_ne
    rw [ho.count hk, hf, hb]
    rfl
  · rintro schedule e draw delay rfl
    exact ho.delay

namespace Sample

def elsewhere : Metadata := { cluster.metadata with ns := some "apps" }

def blame (event : Metadata) (delay : Span) : Occasion :=
  .policy .forPasses event.key (.provider .loginFailed) 0 delay

/-- Two failures with a lost race between them and one of an object of the same name elsewhere,
then a success and one failure more. -/
def setbacks (first second third fourth : Span) : List Occasion :=
  [.pass ⟨Sample.key, toldFailure, .error (.provider .loginFailed)⟩, blame cluster.metadata first,
    blame elsewhere second, .pass ⟨Sample.key, toldRace, .ok (.requeue conflictDelay)⟩,
    blame cluster.metadata third, .pass ⟨Sample.key, toldStart, .ok .awaitChange⟩,
    blame cluster.metadata fourth]

theorem setbacks_pass : ∃ f first second third fourth,
    Passing .none (setbacks first second third fourth) f :=
  ⟨_, _, _, _, _, .next (.next (.next (.next (.next (.next (.next .none (.pass ends_failure))
    .policy) .policy) (.pass ends_race)) .policy) (.pass ends_start)) .policy⟩

end Sample

theorem failures_in_a_row_race : ∃ f first second third fourth,
    Passing .none (Sample.setbacks first second third fourth) f ∧ Plain Sample.key ∧
      f.count "default/db1" = 1 ∧ third = Backoff.forPasses.delay 1 0 ∧
      fourth = Backoff.forPasses.delay 0 0 := by
  obtain ⟨f, first, second, third, fourth, h⟩ := Sample.setbacks_pass
  have hk : Plain Sample.key := by decide
  obtain ⟨hc, hs⟩ := failures_in_a_row h hk
  obtain ⟨f₁, -, -, -, -, h₁, -, hd₁⟩ := hs [_, _, _, _] _ [_, _] rfl
  obtain ⟨f₂, -, -, -, -, h₂, -, hd₂⟩ := hs [_, _, _, _, _, _] _ [] rfl
  have third_delay := hd₁ _ _ _ _ rfl
  have fourth_delay := hd₂ _ _ _ _ rfl
  rw [h₁] at third_delay
  rw [h₂] at fourth_delay
  exact ⟨f, first, second, third, fourth, h, hk, hc, third_delay, fourth_delay⟩

end ClusterOperator.Reconcile
