import ClusterOperator.Proofs.Provider.Calls

/-!
# Operations that look before they send

Whatever an operation is told, it sends a request only as the next thing after a check that
found the login active, and a check that found it otherwise is its end.
-/

namespace ClusterOperator.Provider.Client

open Program

variable {α β : Type}

/-- Sends nothing that was not checked for, and ends with the error of a check that failed. -/
inductive Careful : Program Answer (Except Error α) → Prop
  | done {r : Except Error α} : Careful (.done r)
  | state {next : LoginState → Program Answer (Except Error α)} : (∀ state, Careful (next state)) →
    Careful (.ask .state next)
  | check {next : LoginState → Program Answer (Except Error α)} {r : Request}
    {sent : Except Error Http.Response → Program Answer (Except Error α)} :
    (∀ state e, state.check = .error e → next state = .done (.error e)) →
    next .active = .ask (.send r) sent → (∀ reply, Careful (sent reply)) →
    Careful (.ask .check next)

theorem careful_send {r : Request} : Careful (send r).run := by
  refine .check (r := r) (fun state e he => ?_) rfl fun reply => .done
  cases state with
  | active => cases he
  | _ =>
    cases he
    rfl

theorem Careful.try_bind {x : Call α} {f : α → Call β} (hx : Careful x.run)
    (hf : ∀ a, Careful (f a).run) : Careful (x >>= f).run := by
  change Careful (x.run.bind (ExceptT.bindCont f))
  generalize x.run = p at hx
  induction hx with
  | @done r =>
    cases r with
    | error e => exact .done
    | ok a => exact hf a
  | state _ ih => exact .state ih
  | @check next r _ he hs _ ih =>
    refine .check (r := r) (fun state e h => ?_) ?_ ih
    · rw [he state e h]
      rfl
    · rw [hs]
      rfl

theorem careful_value {r : Except Error α} : Careful (ExceptT.mk (.done r) : Call α).run := .done

theorem careful_fetch {read : Nat → Json.Read α} {r : Request} : Careful (fetch read r).run :=
  careful_send.try_bind fun _ => careful_value

theorem careful_clustersOf : ∀ teams, Careful (clustersOf teams).run
  | [] => careful_value
  | _ :: rest =>
    careful_fetch.try_bind fun _ => (careful_clustersOf rest).try_bind fun _ => careful_value

theorem careful_allClusters : Careful allClusters.run :=
  careful_fetch.try_bind fun _ => careful_clustersOf _

theorem careful_byName (name : String) : Careful (byName name).run := by
  refine careful_allClusters.try_bind fun clusters => ?_
  split
  · exact careful_fetch
  · exact careful_value

theorem careful_personalTeam : Careful personalTeam.run := by
  refine careful_fetch.try_bind fun list => ?_
  split
  · exact careful_value
  · exact careful_value

/-- What a client can be asked to do, with what comes of it. -/
inductive Operation : Type → Type
  | create (r : CreateRequest) : Operation Unit
  | teams : Operation TeamList
  | teamClusters (team : String) : Operation ClusterList
  | allClusters : Operation (List ClusterDetail)
  | byName (name : String) : Operation ClusterDetail
  | detail (id : String) : Operation ClusterDetail
  | delete (id : String) : Operation Unit
  | role (id : String) : Operation ConnectionRole
  | personalTeam : Operation String
  | loginState : Operation LoginState

def Operation.call : Operation α → Call α
  | .create r => Client.create r
  | .teams => Client.teams
  | .teamClusters team => Client.teamClusters team
  | .allClusters => Client.allClusters
  | .byName name => Client.byName name
  | .detail id => Client.detail id
  | .delete id => Client.delete id
  | .role id => Client.role id
  | .personalTeam => Client.personalTeam
  | .loginState => ExceptT.lift (.query Question.state)

theorem Operation.careful (o : Operation α) : Careful o.call.run := by
  cases o with
  | create r => exact careful_send.try_bind fun _ => careful_value
  | teams => exact careful_fetch
  | teamClusters team => exact careful_fetch
  | allClusters => exact careful_allClusters
  | byName name => exact careful_byName name
  | detail id => exact careful_fetch
  | delete id => exact careful_send.try_bind fun _ => careful_value
  | role id => exact careful_fetch
  | personalTeam => exact careful_personalTeam
  | loginState => exact .state fun _ => .done

end ClusterOperator.Provider.Client
