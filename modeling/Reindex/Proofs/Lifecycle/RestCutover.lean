import Reindex.Proofs.Cluster.Exchange
import Reindex.Proofs.Lifecycle.Switch

/-!
# The cutover behind a REST interface

What a decision on an alias sends. The alias is looked up; if one other index carries it and is
there, the aliases of that index are listed. Then one request goes out, with every alias taken off
the old index first and every alias added to the new one behind that, each with the filter that the
listing has for it. If there is no old index, or it is gone, the alias alone is added.

Main statement: `Lifecycle.switchIndex_on_wire`.
-/

namespace Reindex

open AliasTable

/-! ## The update as it is sent -/

namespace RestClient

variable {α : Type} {c : RestClient} {w v : Wire} {before : List Request}

/-- The address is short enough for the path of such a request. -/
def LeavesRoom (c : RestClient) : Prop :=
  (c.base.extend ["_aliases"]).text.utf8ByteSize ≤ longestRequestUrl

instance (c : RestClient) : Decidable c.LeavesRoom := inferInstanceAs (Decidable (_ ≤ _))

/-- Where another request can be sent, only the length of its URL keeps this one back. -/
theorem sendable_actionsRequest {method : String} {segments : List String}
    (other : (c.lookUpRequest method segments).unsendable? = none) (room : c.LeavesRoom)
    (actions : List Json) :
    (c.actionsRequest actions).unsendable? = none := by
  unfold Request.unsendable? at other ⊢
  dsimp only at other ⊢
  split at other
  · cases other
  · rename_i host
    split at other
    · cases other
    · rename_i header
      split at other
      · cases other
      · rename_i reachable
        have reachable : (c.base.extend ["_aliases"]).isReachable = true := by
          have there : (c.lookUpRequest method segments).url.isReachable = true := by
            simpa using reachable
          unfold Url.isReachable at there ⊢
          simp only [Bool.and_eq_true, decide_eq_true_eq] at there ⊢
          exact ⟨there.1, room⟩
        have host : ¬ ((c.base.extend ["_aliases"]).host.getD []).isEmpty = true := host
        have header : ¬ (c.authorization.map fun h => h.toList.any isIllegalInHeader).getD false =
          true := header
        unfold actionsRequest
        simp only [host, header, reachable]
        rfl

/-- What was done ends with one update of aliases, the last request behind some others: `v` is the
wire before it. It is the last thing sent, and if it is accepted the outcome is the one that was
decided. -/
structure PostsActions (c : RestClient) (w v : Wire) (before : List Request) (actions : List Json)
    (decided : α) (r : EStateM.Result Error Wire α) : Prop where
  last : stateAfter r = (v.send (c.actionsRequest actions)).2
  received : c.LeavesRoom →
    (stateAfter r).received = w.received ++ before ++ [c.actionsRequest actions]
  accepted : ∀ status body u,
    v.send (c.actionsRequest actions) = (.answered status (some body), u) →
      isSuccess status = true → r = .ok decided u

end RestClient

namespace Lifecycle

variable {c : RestClient} {l : Lifecycle} {tally : RunTally} {aliasName new : String}
    {w u v x : Wire}

/-! ## What is looked up -/

theorem aliasTarget_of_decodes {found : Json}
    (looked : RestClient.Decodes w (c.lookUpRequest "GET" ["_alias", aliasName]) found u) :
    ((∀ i, ¬ Lists found i) → aliasTarget c.cluster aliasName w = .ok none u) ∧
      ∀ o, (∀ i, Lists found i ↔ i = o) → aliasTarget c.cluster aliasName w = .ok (some o) u := by
  have answered : call (c.cluster.aliases (.ofAlias aliasName)) w = .ok
    (AliasTable.ofJson found) u :=
    call_of_ok (RestClient.aliases_of_decodes (.ofAlias aliasName) looked)
  unfold aliasTarget
  rw [bind_of_ok answered]
  refine ⟨fun none => ?_, fun o only => ?_⟩
  · have keys : (AliasTable.ofJson found).keys = [] :=
      List.eq_nil_iff_forall_not_mem.2 fun i hi => none i ((mem_keys_ofJson looked.read i).1 hi)
    rw [keys]
    rfl
  · have keys : (AliasTable.ofJson found).keys = [o] :=
      List.perm_singleton.1 <|
        (List.perm_ext_iff_of_nodup (Dict.nodup_keys _) (List.pairwise_singleton _ o)).2 fun i => by
          rw [mem_keys_ofJson looked.read, only, List.mem_singleton]
    rw [keys]
    rfl

/-- The plan for aliases without an old index. -/
def plainPlan (aliasName new : String) : SwitchPlan := ⟨none, new, aliasName, withAlias ∅ aliasName⟩

/-- The plan for what a listing has for the old index. -/
def listedPlan (listing : Json) (old aliasName new : String) : SwitchPlan :=
  ⟨some old, new, aliasName, withAlias (((AliasTable.ofJson listing).get? old).getD ∅) aliasName⟩

theorem planSwitch_of_missing {o : String}
    (checked : u.Answers (c.lookUpRequest "HEAD" [o]) 404 v) :
    planSwitch c.cluster aliasName (some o) new u = .ok (plainPlan aliasName new) v := by
  have answered : call (c.cluster.indexExists o) u = .ok false v :=
    call_of_ok (RestClient.indexExists_of_answers checked)
  unfold planSwitch
  dsimp only
  rw [bind_of_ok answered]
  rfl

theorem planSwitch_of_present {o : String} {status : Nat}
    (checked : u.Answers (c.lookUpRequest "HEAD" [o]) status v)
    (success : RestClient.isSuccess status = true) {listing : Json}
    (listed : RestClient.Decodes v (c.lookUpRequest "GET" [o, "_alias"]) listing x) :
    planSwitch c.cluster aliasName (some o) new u = .ok (listedPlan listing o aliasName new) x := by
  have present : call (c.cluster.indexExists o) u = .ok true v :=
    call_of_ok ((RestClient.indexExists_of_answers checked).trans (if_pos success))
  have answered : call (c.cluster.aliases (.ofIndex o)) v = .ok (AliasTable.ofJson listing) x :=
    call_of_ok (RestClient.aliases_of_decodes (.ofIndex o) listed)
  unfold planSwitch
  dsimp only
  rw [bind_of_ok present, if_pos rfl, bind_of_ok answered]
  rfl

/-! ## What is planned -/

theorem get?_withAlias (aliases : Aliases) (name other : String) :
    (withAlias aliases name).get? other = (aliases.get? other <|> if name = other then some none
      else none) := by
  unfold withAlias
  split
  · rename_i there
    cases found : aliases.get? other with
    | some filter => rfl
    | none =>
      have ne : name ≠ other := fun same => by
        rw [same, Dict.contains_eq, found] at there
        cases there
      rw [if_neg ne]
      rfl
  · rename_i absent
    rw [Dict.get?_insert]
    split
    · rename_i same
      subst same
      rw [Option.not_isSome_iff_eq_none.1 absent]
      rfl
    · cases aliases.get? other <;> rfl

theorem actions_plainPlan (aliasName new : String) :
    (plainPlan aliasName new).actions.map RestClient.actionJson =
    [RestClient.addition new aliasName none] :=
  congrArg (fun action => [action]) (RestClient.actionJson_add new aliasName none)

/-- The aliases of the plan are those that are listed, and the one that is asked for. -/
theorem get?_listedPlan {listing : Json} (read : listing.Read) (old name : String) :
    (listedPlan listing old aliasName new).aliases.get? name =
      ((definition? listing old name).map (·.get? "filter") <|> if aliasName = name then some none
        else none) :=
  (get?_withAlias _ _ _).trans (by rw [filter_ofJson read])

theorem mem_keys_listedPlan {listing : Json} (read : listing.Read) (old name : String) :
    name ∈ (listedPlan listing old aliasName new).aliases.keys ↔
      name = aliasName ∨ (definition? listing old name).isSome = true := by
  rw [Dict.mem_keys, Dict.contains_eq, get?_listedPlan read]
  cases definition? listing old name with
  | some definition => exact ⟨fun _ => .inr rfl, fun _ => rfl⟩
  | none =>
    by_cases same : aliasName = name
    · subst same
      rw [if_pos rfl]
      exact ⟨fun _ => .inl rfl, fun _ => rfl⟩
    · rw [if_neg same]
      exact ⟨fun h => (nomatch h), fun h =>
        (h.elim (fun h => same h.symm) fun h => (nomatch h)).elim⟩

/-- Every alias is added with the filter that is listed for it. -/
theorem actions_listedPlan {listing : Json} (read : listing.Read) (old : String) :
    let names := (listedPlan listing old aliasName new).aliases.keys
    (listedPlan listing old aliasName new).actions.map RestClient.actionJson =
      names.map (RestClient.removal old) ++
        names.map fun name =>
          RestClient.addition new name ((definition? listing old name).bind (·.get? "filter")) := by
  intro names
  have filter (entry : String × Option Json)
    (among : entry ∈ (listedPlan listing old aliasName new).aliases.entries) :
      entry.2 = (definition? listing old entry.1).bind (·.get? "filter") := by
    have found := (Dict.mem_entries_iff _ entry.1 entry.2).1 among
    rw [get?_listedPlan read] at found
    cases defined : definition? listing old entry.1 with
    | some definition =>
      rw [defined] at found
      exact (Option.some.inj found).symm
    | none =>
      -- what is not listed can only be the alias that is asked for
      rw [defined] at found
      by_cases same : aliasName = entry.1
      · rw [if_pos same] at found
        exact (Option.some.inj found).symm
      · rw [if_neg same] at found
        cases found
  have removals : (names.map fun name => AliasAction.remove old name).map RestClient.actionJson =
      names.map (RestClient.removal old) := by
    rw [List.map_map]
    exact List.map_congr_left fun name _ => RestClient.actionJson_remove old name
  have additions :
      ((listedPlan listing old aliasName new).aliases.entries.map fun entry =>
        AliasAction.add new entry.1 entry.2).map RestClient.actionJson =
      names.map fun name =>
        RestClient.addition new name ((definition? listing old name).bind (·.get? "filter")) := by
    show _ = (List.map _ _).map _
    rw [List.map_map, List.map_map]
    refine List.map_congr_left fun entry among => ?_
    show RestClient.actionJson (.add new entry.1 entry.2) = RestClient.addition new entry.1 _
    rw [RestClient.actionJson_add, filter entry among]
  rw [← removals, ← additions, ← List.map_append]
  rfl

/-! ## The decision -/

/-- A decision to move the alias ends with the update of its plan. -/
theorem postsActions_of_plan (ensured : l.state = .ensured)
    (named : l.identity = .behind aliasName new) (clean : tally.Clean) {old : Option String}
    {plan : SwitchPlan} {before : List Request}
    (targeted : aliasTarget c.cluster aliasName w = .ok old u) (stale : old ≠ some new)
    (planned : planSwitch c.cluster aliasName old new u = .ok plan v) {method : String}
    {segments : List String} (sendable : (c.lookUpRequest method segments).unsendable? = none)
    (listens : v.Listens) (came : v.received = w.received ++ before) :
    c.PostsActions w v before (plan.actions.map RestClient.actionJson)
      (SwitchOutcome.switched aliasName plan.old new plan.aliases.keys,
        { l with state := .switched })
      (switchIndex c.cluster l tally w) := by
  let outcome := SwitchOutcome.switched aliasName plan.old new plan.aliases.keys
  let update :=
    RestClient.expectSuccess (c.actionsRequest (plan.actions.map RestClient.actionJson))
      .applyAliasActions
  have decides : switchIndex c.cluster l tally w =
      (call update >>= fun _ => pure (outcome, { l with state := .switched })) v := by
    have behind : l.identity.index = new := congrArg Identity.index named
    rw [switchIndex_of_clean c.cluster ensured (congrArg Identity.aliasName named) clean,
      bind_of_ok targeted, behind, if_neg stale]
    unfold publish
    rw [behind, bind_of_ok planned]
    show (call (c.updateAliases plan.actions) >>= fun _ =>
      pure (outcome, { l with state := .switched })) v = _
    rw [c.updateAliases_eq_expectSuccess]
  have last : stateAfter (switchIndex c.cluster l tally w) =
      (v.send (c.actionsRequest (plan.actions.map RestClient.actionJson))).2 := by
    -- behind the update nothing is asked, whether it worked or not
    refine Eq.trans ?_ (RestClient.stateAfter_expectSuccess _ .applyAliasActions v)
    rw [← stateAfter_call, decides]
    cases sent : call update v with
    | ok _ x =>
      rw [bind_of_ok sent]
      rfl
    | error e x =>
      rw [bind_of_error sent]
      rfl
  refine ⟨last, fun room => ?_, fun status body u accepted success => ?_⟩
  · rw [last, (Wire.send_of_sendable (RestClient.sendable_actionsRequest sendable room _)
      listens).2, came]
  · have sent : call update v = .ok () u :=
      call_of_ok (RestClient.expectSuccess_of_accepted accepted success .applyAliasActions)
    rw [decides, bind_of_ok sent]
    rfl

/-- **The cutover behind a REST interface.** The alias is looked up first. If no index has it, the
alias is added to the index of the run, and that is all. If one other index has it, that index is
checked; if it is gone, the alias is added just so. If it is there its aliases are listed, and then
one update takes all of them and the alias off the old index, and behind that adds each to the new
one, in order of their names both times, with the filter that the listing has for it, or none. -/
theorem switchIndex_on_wire (ensured : l.state = .ensured)
    (named : l.identity = .behind aliasName new) (clean : tally.Clean) {found : Json}
    (looked : RestClient.Decodes w (c.lookUpRequest "GET" ["_alias", aliasName]) found u) :
    let lookUp := c.lookUpRequest "GET" ["_alias", aliasName]
    let plain := [RestClient.addition new aliasName none]
    let decided (old : Option String) (names : List String) : SwitchOutcome × Lifecycle :=
      (.switched aliasName old new names, { l with state := .switched })
    let r := switchIndex c.cluster l tally w
    ((∀ i, ¬ Lists found i) → c.PostsActions w u [lookUp] plain (decided none [aliasName]) r) ∧
      ∀ old, old ≠ new → (∀ i, Lists found i ↔ i = old) →
        let check := c.lookUpRequest "HEAD" [old]
        let list := c.lookUpRequest "GET" [old, "_alias"]
        (∀ v, u.Answers check 404 v → c.PostsActions w v [lookUp, check] plain
          (decided none [aliasName]) r) ∧
          ∀ status v, u.Answers check status v → RestClient.isSuccess status = true →
            ∀ listing x, RestClient.Decodes v list listing x → ∃ names : List String,
              names.Pairwise (· < ·) ∧
                (∀ name, name ∈ names ↔ name = aliasName ∨
                  (definition? listing old name).isSome = true) ∧
                c.PostsActions w x [lookUp, check, list]
                  (names.map (RestClient.removal old) ++
                    names.map fun name =>
                      RestClient.addition new name
                        ((definition? listing old name).bind (·.get? "filter")))
                  (decided (some old) names) r := by
  intro lookUp plain decided r
  obtain ⟨_, looks⟩ := looked.answers
  obtain ⟨sendable, -⟩ := looks.sendable
  obtain ⟨listens, came⟩ := looks.received
  obtain ⟨vacant, carried⟩ := aliasTarget_of_decodes looked
  have ends (old : Option String) {plan : SwitchPlan} {v : Wire} {before : List Request}
      (targeted : aliasTarget c.cluster aliasName w = .ok old u) (stale : old ≠ some new)
      (planned : planSwitch c.cluster aliasName old new u = .ok plan v) (listens : v.Listens)
      (came : v.received = w.received ++ before) :=
    postsActions_of_plan ensured named clean targeted stale planned sendable listens came
  refine ⟨fun nowhere => ?_, fun old other only => ?_⟩
  · have planned : planSwitch c.cluster aliasName none new u = .ok (plainPlan aliasName new) u :=
      rfl
    have posts := ends none (vacant nowhere) (fun same => nomatch same) planned listens came
    rwa [actions_plainPlan] at posts
  · have stale : some old ≠ some new := fun same => other (Option.some.inj same)
    refine ⟨fun v checked => ?_, fun status v checked success listing x listed => ?_⟩
    · obtain ⟨listens, arrived⟩ := checked.received
      rw [came, List.append_assoc] at arrived
      have posts :=
        ends (some old) (carried old only) stale (planSwitch_of_missing checked) listens arrived
      rwa [actions_plainPlan] at posts
    · obtain ⟨-, arrived⟩ := checked.received
      obtain ⟨_, lists⟩ := listed.answers
      obtain ⟨listens, told⟩ := lists.received
      rw [arrived, came, List.append_assoc, List.append_assoc] at told
      have posts :=
        ends (some old) (carried old only) stale (planSwitch_of_present checked success listed)
          listens told
      rw [actions_listedPlan listed.read] at posts
      exact ⟨_, Dict.ordered_keys _, mem_keys_listedPlan listed.read old, posts⟩

/-- An alias whose filter is null goes over with it, in four requests. -/
theorem switchIndex_on_wire_books :
    let c : RestClient :=
      ⟨{ scheme := "http", host := some "localhost".toList, path := ['/'] }, .typeless,
        some "ApiKey k"⟩
    let l : Lifecycle := ⟨.behind "books" "books2", {}, {}, .ensured, true⟩
    let carrying : Reply :=
      .answer 200 "\x7b\"books1\":\x7b\"aliases\":\x7b\"books\":\x7b\"filter\":null\x7d\x7d\x7d\x7d"
        false
    let w := Wire.up [carrying, .answer 200 "" false, carrying, .answer 200 "\x7b\x7d" false] []
    let r := switchIndex c.cluster l ⟨{ succeeded := 1 }, false⟩ w
    let asked :=
      "\x7b\"actions\":[\x7b\"remove\":\x7b\"alias\":\"books\",\"index\":\"books1\"\x7d\x7d," ++
      "\x7b\"add\":\x7b\"alias\":\"books\",\"filter\":null,\"index\":\"books2\"\x7d\x7d]\x7d"
    worked r = true ∧ (∀ q ∈ (stateAfter r).received, q.authorization = some "ApiKey k") ∧
      (stateAfter r).received.map (fun q => (q.method, q.url.text, q.contentType, q.body)) =
        [("GET", "http://localhost/_alias/books", none, ""),
          ("HEAD", "http://localhost/books1", none, ""),
            ("GET", "http://localhost/books1/_alias", none, ""),
          ("POST", "http://localhost/_aliases", some "application/json", asked)] := by
  intro c l carrying w r asked
  let found : Json :=
    .object [("books1", .object [("aliases", .object [("books", .object [("filter", .null)])])])]
  let body := "\x7b\"books1\":\x7b\"aliases\":\x7b\"books\":\x7b\"filter\":null\x7d\x7d\x7d\x7d"
  have decoded : RestClient.lookedUp? 200 (some body) = some found := by decide +kernel
  have lists (i : String) : Lists found i ↔ i = "books1" := by
    constructor
    · rintro ⟨_, there⟩
      by_cases same : "books1" = i
      · exact same.symm
      · simp [found, listing?, Json.get?, Entries.get?, same] at there
    · rintro rfl
      exact ⟨_, rfl⟩
  let lookUp := c.lookUpRequest "GET" ["_alias", "books"]
  let check := c.lookUpRequest "HEAD" ["books1"]
  let list := c.lookUpRequest "GET" ["books1", "_alias"]
  let u := Wire.up [.answer 200 "" false, carrying, .answer 200 "\x7b\x7d" false] [lookUp]
  let v := Wire.up [carrying, .answer 200 "\x7b\x7d" false] [lookUp, check]
  let x := Wire.up [.answer 200 "\x7b\x7d" false] [lookUp, check, list]
  have looked : RestClient.Decodes w lookUp found u := ⟨200, some body, by decide +kernel, decoded⟩
  have checked : u.Answers check 200 v := ⟨some "", by decide +kernel⟩
  have listed : RestClient.Decodes v list found x := ⟨200, some body, by decide +kernel, decoded⟩
  have clean : RunTally.Clean ⟨{ succeeded := 1 }, false⟩ := ⟨rfl, Nat.le_refl 1⟩
  obtain ⟨-, moves⟩ := switchIndex_on_wire (show l.state = .ensured from rfl) rfl clean looked
  obtain ⟨names, ordered, among, posts⟩ :=
    (moves "books1" (by decide) lists).2 200 v checked rfl found x listed
  have only : names = ["books"] := by
    refine List.perm_singleton.1 ?_
    refine (List.perm_ext_iff_of_nodup (ordered.imp fun h => String.ne_of_lt h)
      (List.pairwise_singleton _ _)).2 fun name => ?_
    rw [among, List.mem_singleton]
    refine ⟨fun h => h.elim id fun defined => ?_, .inl⟩
    by_cases same : "books" = name
    · exact same.symm
    · simp [found, definition?, listing?, Json.get?, Entries.get?, same] at defined
  let actions :=
    [RestClient.removal "books1" "books", RestClient.addition "books2" "books" (some .null)]
  have same : names.map (RestClient.removal "books1") ++
      (names.map fun name =>
        RestClient.addition "books2" name
          ((definition? found "books1" name).bind (·.get? "filter"))) = actions := by
    rw [only]
    rfl
  rw [same] at posts
  let y := Wire.up [] [lookUp, check, list, c.actionsRequest actions]
  have accepted : x.send (c.actionsRequest actions) = (.answered 200 (some "\x7b\x7d"), y) := by
    decide +kernel
  have received : (stateAfter r).received = [lookUp, check, list, c.actionsRequest actions] :=
    posts.received (by decide +kernel)
  rw [received]
  exact ⟨congrArg worked (posts.accepted 200 _ y accepted rfl),
    by decide +kernel, by decide +kernel⟩

end Lifecycle

end Reindex
