/-
  What descriptions show of an actor.

  A draft that is built for two actors gives rules of one description, whatever the actors are,
  as long as no test among constants takes its constants from them: the description shows an
  actor value by the path it was read from.  A test among constants shows the constants, and
  does not know any more that an actor held them.

  * `Build.Agree` relates what two builds give if both succeed;
  * `RuleDraft.members` are the arguments of a draft that its tests among constants take their
    constants from;
  * `RuleDraft.build_agree`: a draft under two actors, by recursion on the draft;
  * `RuleDraft.describe_eq`: the descriptions are the same if these arguments stand for the
    same values, and `RuleDraft.describe_shows_members` that they need not be otherwise.
-/
import Clearance.Proofs.Draft.Fields

namespace Clearance

variable {α β γ δ : Type}

/-! ## Builds that agree -/

namespace Build

/-- A sequence of builds that succeeds consists of builds that do. -/
theorem run_bind_ok {b : Build α} {f : α → Build β} {calls : List String} {c : β}
    (h : (ExceptT.run (b >>= f) calls).1 = .ok c) :
    ∃ a calls', (ExceptT.run b calls).1 = .ok a ∧ (ExceptT.run (f a) calls').1 = .ok c := by
  have hb : ExceptT.run (b >>= f) calls = match ExceptT.run b calls with
      | (.ok a, calls) => ExceptT.run (f a) calls
      | (.error e, calls) => (.error e, calls) := by
    show StateT.bind (ExceptT.run b) (ExceptT.bindCont f) calls = _
    unfold StateT.bind
    rcases h : ExceptT.run b calls with ⟨_ | a, calls'⟩ <;> rfl
  rw [hb] at h
  rcases hr : ExceptT.run b calls with ⟨_ | a, calls'⟩ <;> rw [hr] at h
  · cases h
  · exact ⟨a, calls', rfl, h⟩

/-- If both of two builds succeed, what they give is related, whatever was called before. -/
def Agree (R : α → β → Prop) (b : Build α) (b' : Build β) : Prop :=
  ∀ calls calls', Result.Agree R (ExceptT.run b calls).1 (ExceptT.run b' calls').1

namespace Agree

variable {R : α → β → Prop} {S : γ → δ → Prop} {b : Build α} {b' : Build β}

theorem pure {a : α} {a' : β} (h : R a a') : Agree R (pure a) (pure a') := fun _ _ => .ok h

theorem throw (e : Error) (b' : Build β) : Agree R (throw e) b' := fun _ _ => .error e _

theorem lift {r : Result α} {r' : Result β} (h : Result.Agree R r r') :
    Agree R (liftExcept r) (liftExcept r') := by
  intro _ _
  cases r <;> cases r' <;> exact h

theorem bind {f : α → Build γ} {f' : β → Build δ} (hb : Agree R b b')
    (hf : ∀ a a', R a a' → Agree S (f a) (f' a')) : Agree S (b >>= f) (b' >>= f') := by
  intro calls calls' c c' hc hc'
  obtain ⟨a, later, ha, hc⟩ := run_bind_ok hc
  obtain ⟨a', later', ha', hc'⟩ := run_bind_ok hc'
  exact hf a a' (hb calls calls' a a' ha ha') later later' c c' hc hc'

/-- What operators make of arguments that are alike. -/
theorem expr {r r' : Result (Expr Hatch)} (h : Result.Agree Expr.SameText r r') :
    Agree Rule.Alike (do return .expr (← liftExcept r)) (do return .expr (← liftExcept r')) :=
  (lift h).bind fun _ _ he => pure (.expr he)

theorem log (name : String) : Agree (fun _ _ => True) (logCall name) (logCall name) :=
  fun _ _ _ _ _ _ => trivial

end Agree

end Build

/-! ## The constants of a draft -/

mutual

/-- The arguments that the tests among constants of a draft take their constants from. -/
def RuleDraft.members : RuleDraft → List ArgumentDraft
  | .value _ | .literal _ | .bare _ _ _ => []
  | .expression rule | .negation rule | .function rule _ => rule.members
  | .compare _ left right => left.members ++ right.members
  | .between path low high => path.members ++ low.members ++ high.members
  | .inArray path values => values :: (path.members ++ values.members)
  | .nullCheck _ path | .textMatch _ path _ | .search path _ _ | .tenantScoped path => path.members
  | .belongsToTenant actorValue path => actorValue.members ++ path.members
  | .junction _ rules => ruleMembers rules
  | .relatedRow _ table _ predicate _ => table.members ++ predicate.members
  | .relatedRule _ table predicate _ =>
    predicate.members ++ table.members ++ predicate.calledMembers
  | .node _ fields => fieldMembers fields

/-- Those in the body of a bare function, which a test of related rows calls. -/
def RuleDraft.calledMembers : RuleDraft → List ArgumentDraft
  | .bare _ _ body => body.members
  | _ => []

/-- Those of some rules. -/
def ruleMembers : List RuleDraft → List ArgumentDraft
  | [] => []
  | rule :: rest => rule.members ++ ruleMembers rest

/-- Those in the rules that an argument is built of. -/
def ArgumentDraft.members : ArgumentDraft → List ArgumentDraft
  | .asScoped a _ | .asActor a => a.members
  | .rule r => r.members
  | _ => []

/-- Those of some arguments. -/
def argumentMembers : List ArgumentDraft → List ArgumentDraft
  | [] => []
  | a :: rest => a.members ++ argumentMembers rest

/-- Those of a field. -/
def FieldDraft.members : FieldDraft → List ArgumentDraft
  | .kind _ => []
  | .one a => a.members
  | .tuple as => argumentMembers as

/-- Those of some fields. -/
def fieldMembers : List (String × FieldDraft) → List ArgumentDraft
  | [] => []
  | (_, field) :: rest => field.members ++ fieldMembers rest

/-- Those of the rules that a body may return. -/
def BodyDraft.members : BodyDraft → List ArgumentDraft
  | .give rule => rule.members
  | .test _ _ yes no => yes.members ++ no.members
  | .fail _ | .again => []

end

/-- An argument stands for the same value under two actors, if it can be built under both. -/
def ArgumentDraft.SameValue [CharacterNames] (schema : SchemaSource) (actor actor' : Value)
    (a : ArgumentDraft) :
    Prop :=
  ∀ rows, Build.Agree (fun a a' => a.held? = a'.held?) (a.build ⟨schema, actor⟩ rows)
    (a.build ⟨schema, actor'⟩ rows)

/-! ## Drafts under two actors -/

section

variable {schema : SchemaSource} {actor actor' : Value}

mutual

/-- **A draft under two actors.**  Built for either of them it gives rules of one description, if
    its tests among constants take the same constants. -/
theorem RuleDraft.build_agree [CharacterNames] :
    ∀ (draft : RuleDraft) (rows : List (String × OpenRow)),
    (∀ a ∈ draft.members, a.SameValue schema actor actor') →
      Build.Agree Rule.Alike (draft.build ⟨schema, actor⟩ rows) (draft.build ⟨schema, actor'⟩ rows)
  | .value v, _, _ => .pure (.value v)
  | .expression rule, rows, h =>
    (rule.build_agree rows h).bind fun _ _ hr => .expr hr.toExpr
  | .compare op left right, rows, h => by
    obtain ⟨hl, hr⟩ := List.forall_mem_append.1 h
    exact (left.build_agree rows hl).bind fun _ _ hl => (right.build_agree rows hr).bind
      fun _ _ hr => .expr (Operator.compare_agree op hl hr)
  | .between path low high, rows, h => by
    obtain ⟨h, hh⟩ := List.forall_mem_append.1 h
    obtain ⟨hp, hl⟩ := List.forall_mem_append.1 h
    exact (path.build_agree rows hp).bind fun _ _ hp => (low.build_agree rows hl).bind
      fun _ _ hl => (high.build_agree rows hh).bind fun _ _ hh =>
        .expr (Operator.between_agree hp hl hh)
  | .inArray path values, rows, h => by
    obtain ⟨hv, h⟩ := List.forall_mem_cons.1 h
    exact (path.build_agree rows (List.forall_mem_append.1 h).1).bind fun _ _ hp =>
      (hv rows).bind fun _ _ hv => .expr (Operator.inArray_agree hp hv)
  | .nullCheck test path, rows, h =>
    (path.build_agree rows h).bind fun _ _ hp => .expr (Operator.nullCheck_agree test hp)
  | .textMatch test path text, rows, h =>
    (path.build_agree rows h).bind fun _ _ hp => .expr (Operator.textMatch_agree test hp text)
  | .search path pattern flags, rows, h =>
    (path.build_agree rows h).bind fun _ _ hp => .expr (Operator.search_agree hp pattern flags)
  | .tenantScoped path, rows, h =>
    (path.build_agree rows h).bind fun _ _ hp => .expr (Operator.tenantScoped_agree hp)
  | .belongsToTenant actorValue path, rows, h => by
    obtain ⟨ha, hp⟩ := List.forall_mem_append.1 h
    exact (actorValue.build_agree rows ha).bind fun _ _ ha => (path.build_agree rows hp).bind
      fun _ _ hp => .expr (Operator.belongsToTenant_agree ha hp)
  | .literal _, _, _ => .expr (.refl .refl _)
  | .negation rule, rows, h =>
    (rule.build_agree rows h).bind fun _ _ hr => .expr (Operator.negation_agree hr)
  | .junction kind rules, rows, h =>
    (buildRules_agree rules rows h).bind fun _ _ hr => .expr (Operator.junction_agree kind hr)
  | .relatedRow kind table row predicate minCount, rows, h => by
    obtain ⟨ht, hp⟩ := List.forall_mem_append.1 h
    refine (table.build_agree rows ht).bind fun _ _ ht =>
      (Build.Agree.lift (ht.openTable kind)).bind fun opened _ ho => ?_
    subst ho
    exact (predicate.build_agree _ hp).bind fun _ _ hp =>
      .expr (Operator.related_agree kind _ hp minCount)
  | .relatedRule kind table predicate minCount, rows, h => by
    obtain ⟨h, hc⟩ := List.forall_mem_append.1 h
    obtain ⟨hp, ht⟩ := List.forall_mem_append.1 h
    refine (predicate.build_agree rows hp).bind fun r r' hr => (table.build_agree rows ht).bind
      fun _ _ ht => (Build.Agree.lift (ht.openTable kind)).bind fun opened _ ho => ?_
    subst ho
    have hrelated : ∀ {b b' : Build (Rule Hatch)}, Build.Agree Rule.Alike b b' →
        Build.Agree Rule.Alike
          (do return .expr (← liftExcept (Operator.related kind opened.1 (← b) minCount)))
          (do return .expr (← liftExcept (Operator.related kind opened.1 (← b') minCount))) :=
      fun hb => hb.bind fun _ _ hr => .expr (Operator.related_agree kind _ hr minCount)
    cases hr with
    | expr he => exact hrelated (.pure (.expr he))
    | function name hn => exact hrelated (predicate.callWith_agree rows hn _ hc)
    | value v => exact hrelated (.throw _ _)
  | .bare _ _ _, _, _ => .pure (.function _ rfl)
  | .function rule description, rows, h =>
    (rule.build_agree rows h).bind fun _ _ hr => .expr (Operator.function_agree hr description)
  | .node shape fields, rows, h =>
    (buildFields_agree fields rows h).bind fun _ _ hf => .expr (shape.make_agree hf)

theorem RuleDraft.callWith_agree [CharacterNames] {hatch hatch' : Hatch} : ∀ (draft : RuleDraft)
    (rows : List (String × OpenRow)), hatch.name = hatch'.name → ∀ a : Argument Hatch,
    (∀ a ∈ draft.calledMembers, a.SameValue schema actor actor') →
      Build.Agree Rule.Alike (draft.callWith ⟨schema, actor⟩ rows hatch a)
        (draft.callWith ⟨schema, actor'⟩ rows hatch' a)
  | draft, rows, hn, a, h => by
    cases draft with
    | bare serial name body =>
      exact (Build.Agree.log name).bind fun _ _ _ => body.run_agree rows hn a h
    | _ => exact .throw _ _

theorem buildRules_agree [CharacterNames] :
    ∀ (rules : List RuleDraft) (rows : List (String × OpenRow)),
    (∀ a ∈ ruleMembers rules, a.SameValue schema actor actor') →
      Build.Agree (List.Forall₂ Rule.Alike) (buildRules ⟨schema, actor⟩ rows rules)
        (buildRules ⟨schema, actor'⟩ rows rules)
  | [], _, _ => .pure .nil
  | rule :: rest, rows, h => by
    obtain ⟨hr, hrest⟩ := List.forall_mem_append.1 h
    exact (rule.build_agree rows hr).bind fun _ _ hr => (buildRules_agree rest rows hrest).bind
      fun _ _ hrest => .pure (.cons hr hrest)

/-- An argument is built alike for both. -/
theorem ArgumentDraft.build_agree [CharacterNames] :
    ∀ (draft : ArgumentDraft) (rows : List (String × OpenRow)),
    (∀ a ∈ draft.members, a.SameValue schema actor actor') →
      Build.Agree Argument.Alike (draft.build ⟨schema, actor⟩ rows)
        (draft.build ⟨schema, actor'⟩ rows)
  | .subject _, _, _ => .lift (.refl .same _)
  | .scopedTable _ _, _, _ => .lift (.refl .same _)
  | .asScoped a _, rows, h =>
    (a.build_agree rows h).bind fun _ _ ha =>
      .lift (ha.asScoped.bind fun _ _ ha => ha ▸ .refl .same _)
  | .row _ _, _, _ => .lift (.refl .same _)
  | .actor names, _, _ => .lift (Argument.Alike.captures names (.captured rfl rfl rfl))
  | .asActor a, rows, h => (a.build_agree rows h).bind fun _ _ ha => .pure ha.asActor
  | .pathRef _, _, _ => .pure (.same _)
  | .tableRef _, _, _ => .pure (.same _)
  | .actorRef _, _, _ => .pure (.same _)
  | .rule r, rows, h => (r.build_agree rows h).bind fun _ _ hr => .pure (.rule hr)
  | .value _, _, _ => .pure (.same _)

theorem buildArguments_agree [CharacterNames] :
    ∀ (drafts : List ArgumentDraft) (rows : List (String × OpenRow)),
    (∀ a ∈ argumentMembers drafts, a.SameValue schema actor actor') →
      Build.Agree (List.Forall₂ Argument.Alike) (buildArguments ⟨schema, actor⟩ rows drafts)
        (buildArguments ⟨schema, actor'⟩ rows drafts)
  | [], _, _ => .pure .nil
  | draft :: rest, rows, h => by
    obtain ⟨ha, hrest⟩ := List.forall_mem_append.1 h
    exact (draft.build_agree rows ha).bind fun _ _ ha => (buildArguments_agree rest rows hrest).bind
      fun _ _ hrest => .pure (.cons ha hrest)

theorem FieldDraft.build_agree [CharacterNames] :
    ∀ (draft : FieldDraft) (rows : List (String × OpenRow)),
    (∀ a ∈ draft.members, a.SameValue schema actor actor') →
      Build.Agree Field.Alike (draft.build ⟨schema, actor⟩ rows) (draft.build ⟨schema, actor'⟩ rows)
  | .kind _, _, _ =>
    (Build.Agree.lift (.refl (fun _ => rfl) _)).bind fun k _ hk => .pure (hk ▸ .kind k)
  | .one a, rows, h => (a.build_agree rows h).bind fun _ _ ha => .pure (.one ha)
  | .tuple as, rows, h => (buildArguments_agree as rows h).bind fun _ _ ha => .pure (.tuple ha)

theorem buildFields_agree [CharacterNames] : ∀ (fields : List (String × FieldDraft))
    (rows : List (String × OpenRow)), (∀ a ∈ fieldMembers fields, a.SameValue schema actor actor') →
      Build.Agree Fields.Alike (buildFields ⟨schema, actor⟩ rows fields)
        (buildFields ⟨schema, actor'⟩ rows fields)
  | [], _, _ => .pure .nil
  | (name, field) :: rest, rows, h => by
    obtain ⟨hf, hrest⟩ := List.forall_mem_append.1 h
    exact (field.build_agree rows hf).bind fun _ _ hf => (buildFields_agree rest rows hrest).bind
      fun _ _ hrest => .pure (.cons ⟨rfl, hf⟩ hrest)

/-- The body of a function returns rules of one description to calls with one argument. -/
theorem BodyDraft.run_agree [CharacterNames] {hatch hatch' : Hatch} : ∀ (body : BodyDraft)
    (rows : List (String × OpenRow)), hatch.name = hatch'.name → ∀ a : Argument Hatch,
    (∀ a ∈ body.members, a.SameValue schema actor actor') →
      Build.Agree Rule.Alike (body.run ⟨schema, actor⟩ rows hatch a)
        (body.run ⟨schema, actor'⟩ rows hatch' a)
  | .give rule, rows, _, _, h => rule.build_agree rows h
  | .test names v yes no, rows, hn, a, h => by
    obtain ⟨hy, hno⟩ := List.forall_mem_append.1 h
    refine (Build.Agree.lift (.refl (fun _ => rfl) _)).bind fun found _ hf => ?_
    subst hf
    cases found with
    | true => exact yes.run_agree rows hn a hy
    | false => exact no.run_agree rows hn a hno
  | .fail _, _, _, _, _ => .throw _ _
  | .again, _, hn, _, _ => .pure (.expr (by rw [Expr.SameText, Expr.describe, Expr.describe, hn]))

end

end

/-- **Descriptions show nothing of an actor but the constants taken from it.**  If a draft can be
    built for two actors, whose fields need not even have the same shape, and its tests among
    constants take the same constants for both, the rules have one description. -/
theorem RuleDraft.describe_eq [CharacterNames] (draft : RuleDraft) (schema : SchemaSource)
    (actor actor' : Value) (hm : ∀ a ∈ draft.members, a.SameValue schema actor actor')
    (r r' : Rule Hatch) (hr : (draft.build ⟨schema, actor⟩ []).outcome.2 = .ok r)
    (hr' : (draft.build ⟨schema, actor'⟩ []).outcome.2 = .ok r') : r.describe = r'.describe :=
  (draft.build_agree [] hm [] [] r r' hr hr').describe

/-- The actor's own posts with an open status, and those on which the actor has commented. -/
def RuleDraft.ownPosts : RuleDraft :=
  .junction .or
    [.junction .and
      [.belongsToTenant (.actor ["user", "id"]) (.subject ["post", "owner"]),
       .inArray (.subject ["post", "status"]) (.value (.list [.str "open"]))],
     .relatedRow .exists (.subject ["comments"]) "comment"
      (.junction .and
        [.compare .eq (.row "comment" ["post_id"]) (.subject ["post", "id"]),
         .compare .eq (.row "comment" ["author"]) (.actor ["user", "id"])])
      (.int 1)]

/-- What is built of them for an actor of some name. -/
theorem RuleDraft.ownPosts_build [CharacterNames] (id : Scalar) :
    (ownPosts.build ⟨.data .null, .dict [("user", .dict [("id", .scalar id)])]⟩ []).outcome.2 =
      .ok (.expr (.junction .or
        [.junction .and
          [.belongsToTenant ⟨.scalar id, "actor.user.id"⟩ ⟨false, "post", "owner"⟩,
           .inArray ⟨false, "post", "status"⟩ [.str "open"]],
         .related .exists "comments"
          (.junction .and
            [.comparison .eq ⟨true, "comments", "post_id"⟩ (.path ⟨false, "post", "id"⟩),
             .comparison .eq ⟨true, "comments", "author"⟩
              (.actor ⟨.scalar id, "actor.user.id"⟩)]) 1])) := by
  let commented : Expr Hatch := .junction .and
    [.comparison .eq ⟨true, "comments", "post_id"⟩ (.path ⟨false, "post", "id"⟩),
     .comparison .eq ⟨true, "comments", "author"⟩ (.actor ⟨.scalar id, "actor.user.id"⟩)]
  have hcorrelated : Operator.isCorrelated "comments" commented = true := by
    simp [Operator.isCorrelated, Expr.relatedTables, Expr.paths, Expr.walk_eq_preorder, commented,
      Expr.preorder, Expr.preorderAll, Expr.nodePaths, Operand.path?]
  have hcomments : RuleDraft.build ⟨.data .null, .dict [("user", .dict [("id", .scalar id)])]⟩ []
      (.relatedRow .exists (.subject ["comments"]) "comment"
        (.junction .and
          [.compare .eq (.row "comment" ["post_id"]) (.subject ["post", "id"]),
           .compare .eq (.row "comment" ["author"]) (.actor ["user", "id"])]) (.int 1)) =
      pure (.expr (.related .exists "comments" commented 1)) := by
    show (liftExcept (Operator.related .exists "comments" (.expr commented) (.int (1 : Nat))) >>=
      fun e => pure (.expr e) : Build (Rule Hatch)) = _
    rw [Operator.related_expr hcorrelated]
    rfl
  rw [ownPosts, RuleDraft.build, buildRules, buildRules, buildRules, hcomments]
  rfl

section

attribute [local instance] CharacterNames.empty

/-- Two actors with values of different types in one field. -/
theorem RuleDraft.describe_eq_of_ownPosts : ∃ r r',
    (ownPosts.build ⟨.data .null, .dict [("user", .dict [("id", .int 7)])]⟩ []).outcome.2 = .ok r ∧
    (ownPosts.build ⟨.data .null, .dict [("user", .dict [("id", .str "x")])]⟩ []).outcome.2 =
      .ok r' ∧ r.describe = r'.describe := by
  have hm : ∀ a ∈ ownPosts.members, a.SameValue (.data .null)
      (.dict [("user", .dict [("id", .int 7)])]) (.dict [("user", .dict [("id", .str "x")])]) := by
    intro a ha
    obtain rfl : a = .value (.list [.str "open"]) := List.mem_singleton.1 ha
    exact fun _ => .pure rfl
  exact ⟨_, _, ownPosts_build _, ownPosts_build _,
    ownPosts.describe_eq _ _ _ hm _ _ (ownPosts_build _) (ownPosts_build _)⟩

end

/-- The posts of the actor's teams. -/
def RuleDraft.teamPosts : RuleDraft :=
  .inArray (.subject ["post", "team"]) (.actor ["user", "teams"])

section

attribute [local instance] CharacterNames.empty

/-- The constants that are taken from an actor are shown. -/
theorem RuleDraft.describe_shows_members : ∃ r r',
    (teamPosts.build ⟨.data .null, .dict [("user", .dict [("teams", .list [.str "red"])])]⟩
      []).outcome.2 = .ok r ∧
    (teamPosts.build ⟨.data .null, .dict [("user", .dict [("teams", .list [.str "green"])])]⟩
      []).outcome.2 = .ok r' ∧
    r.describe = .ok "inArray(post.team, ['red'])" ∧
    r'.describe = .ok "inArray(post.team, ['green'])" := by
  exact ⟨.expr (.inArray ⟨false, "post", "team"⟩ [.str "red"]),
    .expr (.inArray ⟨false, "post", "team"⟩ [.str "green"]), rfl, rfl, rfl, rfl⟩

end

end Clearance
