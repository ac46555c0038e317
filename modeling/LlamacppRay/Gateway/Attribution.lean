import LlamacppRay.Gateway.Accounting
import LlamacppRay.Gateway.Process
import LlamacppRay.Gateway.QueueRejections
import LlamacppRay.Gateway.Reconciliation

/-! Which node has served a request. An answer takes the name of its node through the retries, the response, the
request log and the labels of the metrics. -/

namespace LlamacppRay.Gateway
open LlamacppRay.Asyncio LlamacppRay.Automata LlamacppRay.Python

/-! ### The node of an answer -/

def NamesNode (answer : Json) (ip : String) : Prop :=
  ∃ members, answer = .obj members ∧ Json.member members "node_ip" = some (.str ip)

theorem Submit.names_of_finish {ip : String} {queueMs : Int} {data answer : Json}
    (finished : finish ip queueMs data = .ok answer) : NamesNode answer ip := by
  cases data with
  | obj members =>
    cases finished
    refine ⟨_, rfl, ?_⟩
    rw [Json.member_setMember_of_ne _ (by decide), Json.member_setMember_self]
  | _ => cases finished

/-- The node that a call is at, or has its answer from, is the last one it was sent to. -/
def Submit.Located (log : List Action) : Submit → Prop
  | .sending _ ip => (dispatches log).getLast? = some ip
  | .leaving (.ok answer) | .done (.ok answer) => ∃ ip, (dispatches log).getLast? = some ip ∧ NamesNode answer ip
  | _ => True

theorem last_dispatch {log actions : List Action} {ip : String} (sent : dispatches actions = [ip]) :
    (dispatches (log ++ actions)).getLast? = some ip := by
  rw [dispatches_append, sent, List.getLast?_concat]

theorem no_dispatch {log actions : List Action} (none_sent : dispatches actions = []) :
    dispatches (log ++ actions) = dispatches log := by
  rw [dispatches_append, none_sent, List.append_nil]

theorem Submit.Step.located {p p' : NodePool} {st next : Submit} {r : Resume} {log actions : List Action}
    (step : Submit.Step p st r p' next actions) (before : st.Located log) : next.Located (log ++ actions) := by
  cases step with
  | granted head chosen => exact last_dispatch rfl
  | served chosen => exact last_dispatch rfl
  | @succeeded locals ip queueMs result data outcome =>
    cases finished : finish ip queueMs data with
    | ok answer =>
      refine ⟨ip, ?_, names_of_finish finished⟩
      rw [no_dispatch rfl]
      exact before
    | error exn => trivial
  | quiet ends =>
    cases ends with
    | left result =>
      cases result with
      | ok answer =>
        rw [List.append_nil]
        exact before
      | error exn => trivial
    | _ => trivial
  | _ => trivial

theorem Router.submit_located {hash : String → Int} {p : NodePool} {s : Router} {index : Nat} {answer : Json}
    {log : List Action} (reached : (machine hash).Reaches ⟨Monitor.unlocked p, []⟩ s)
    (found : s.calls[index]? = some ⟨.submit (.done (.ok answer)), log⟩) :
    ∃ ip, (dispatches log).getLast? = some ip ∧ NamesNode answer ip := by
  refine @submit_invariant hash p (fun st log => st.Located log) ?_ ?_ s reached index _ log found
  · intro p affinityKey
    exact Submit.start_cases (motive := Submit.Located []) (fun _ => trivial) (fun _ => trivial) p hash affinityKey
  · intro p p' st r next log actions before step
    exact step.located before

/-- No failure of a call looks like a success. -/
theorem Router.submit_failed {hash : String → Int} {p : NodePool} {s : Router} {index : Nat} {exn : Exn}
    {log : List Action} (reached : (machine hash).Reaches ⟨Monitor.unlocked p, []⟩ s)
    (found : s.calls[index]? = some ⟨.submit (.done (.error exn)), log⟩) (detail : Json) :
    exn ≠ .httpException 200 detail := by
  rintro rfl
  exact (submit_fails reached found).ne_success rfl

namespace Chat
variable {platform : Platform} {env : Environment} {request : Request} {node : Option String}

/-! ### What is written about the node -/

def Emission.Names (node : Option String) : Emission → Prop
  | .row entry => entry.statusCode = 200 → ∃ ip ∈ node, entry.nodeIp = .str ip
  | .requestCount labels => labels.statusCode = "200" → node = some labels.nodeIp
  | .latency labels _ => node = some labels.nodeIp
  | _ => True

theorem noted_names {site : Site} {row : Except Exn RequestLog} {message : String}
    (names : ∀ entry, row = .ok entry → (Emission.row entry).Names node) :
    ∀ emission ∈ noted env site row message, emission.Names node := by
  intro emission among
  rcases mem_noted among with rfl | rfl | ⟨entry, shown, rfl⟩
  · trivial
  · trivial
  · exact names entry shown

theorem failureRow_names {site : Site} {nodeIp : Json} {statusCode : Int} {error : String} (failed : statusCode ≠ 200)
    (entry : RequestLog) (shown : failureRow env request site nodeIp statusCode error = .ok entry) :
    (Emission.row entry).Names node := by
  obtain ⟨promptTokens, -, rest⟩ := ok_of_bind shown
  obtain ⟨preview, -, last⟩ := ok_of_bind rest
  cases last
  exact fun success => absurd success failed

theorem count_names {statusCode : Int} {streaming nodeIp : String} (failed : statusCode ≠ 200) :
    (Emission.requestCount (countLabels request statusCode streaming nodeIp)).Names node :=
  fun success => absurd ((toString_eq_success statusCode).mp success) failed

theorem handled_names {exc : Exn} (failed : ∀ detail, exc ≠ .httpException 200 detail) :
    ∀ emission ∈ handled platform env request exc, emission.Names node := by
  have generic : ∀ message, ∀ emission ∈ Emission.requestCount (countLabels request 500 "false" "unknown") ::
      noted env .failure (failureRow env request .failure .null 500 message) "Failed to log inference exception",
      emission.Names node := fun message =>
    List.forall_mem_cons.mpr ⟨count_names (by decide), noted_names (failureRow_names (by decide))⟩
  cases exc with
  | httpException statusCode detail =>
    have other : statusCode ≠ 200 := by
      rintro rfl
      exact failed detail rfl
    refine List.forall_mem_append.mpr ⟨?_, List.forall_mem_cons.mpr
      ⟨count_names other, noted_names (failureRow_names other)⟩⟩
    split
    · exact List.forall_mem_singleton.mpr trivial
    · exact List.forall_mem_nil _
  | _ => exact generic _

theorem reported_names {completion : Completion} {ip : String} (served : completion.nodeIp = .str ip) :
    ∀ emission ∈ reported platform env request completion, emission.Names (some ip) := by
  have row : ∀ entry, successRow platform env request completion = .ok entry →
      (Emission.row entry).Names (some ip) := by
    intro entry shown
    obtain ⟨preview, -, rest⟩ := ok_of_bind shown
    obtain ⟨response, -, last⟩ := ok_of_bind rest
    cases last
    exact fun _ => ⟨ip, rfl, served⟩
  have label : nodeLabel platform completion.nodeIp = ip := by rw [served, nodeLabel]
  unfold reported
  rw [label]
  refine List.forall_mem_append.mpr ⟨List.forall_mem_append.mpr ⟨noted_names row, ?_⟩, ?_⟩
  · exact List.forall_mem_cons.mpr ⟨fun _ => rfl, List.forall_mem_singleton.mpr rfl⟩
  · intro emission among
    split at among
    · rcases List.mem_cons.mp among with rfl | rest
      · trivial
      · split at rest
        · rw [List.mem_singleton.mp rest]
          trivial
        · cases rest
    · cases among

theorem complete_names {answer : Json} {completion : Completion} {ip : String} (names : NamesNode answer ip)
    (completed : complete platform request answer = .ok completion) :
    completion.nodeIp = .str ip ∧ NamesNode completion.result ip := by
  obtain ⟨members, rfl, there⟩ := names
  obtain ⟨result, normalized, rest⟩ := ok_of_bind completed
  obtain ⟨kept, rfl, same⟩ := members_of_normalize normalized
  have kept_there : Json.member kept "node_ip" = some (.str ip) := by rw [same _ (by decide) (by decide), there]
  obtain ⟨usage, -, rest⟩ := ok_of_bind rest
  obtain ⟨total, -, rest⟩ := ok_of_bind rest
  obtain ⟨promptTokens, -, rest⟩ := ok_of_bind rest
  obtain ⟨completionTokens, -, rest⟩ := ok_of_bind rest
  obtain ⟨queueMs, -, rest⟩ := ok_of_bind rest
  obtain ⟨nodeIp, read, last⟩ := ok_of_bind rest
  cases last
  have found : nodeIp = .str ip := by
    rw [Json.get, kept_there] at read
    cases read
    rfl
  exact ⟨found, kept, rfl, kept_there⟩

theorem Inferred.names {inner : List Emission} {result : Except Exn Answer}
    (ways : Inferred platform env request inner result) (direct : request.stream = false)
    (succeeds : ∀ answer, env.submit = .ok answer → ∃ ip, node = some ip ∧ NamesNode answer ip)
    (fails : ∀ exc, env.submit = .error exc → ∀ detail, exc ≠ .httpException 200 detail) :
    (∀ emission ∈ inner, emission.Names node) ∧
      ((∃ document ip, result = .ok (.json document) ∧ node = some ip ∧ NamesNode document ip) ∨
        ∃ exc, result = .error exc ∧ ∀ detail, exc ≠ .httpException 200 detail) := by
  have asks : ∀ emission ∈ started request, emission.Names node :=
    List.forall_mem_cons.mpr ⟨trivial, List.forall_mem_singleton.mpr trivial⟩
  have raised_failed : ∀ {exc : Exn}, (∀ detail, exc ≠ .httpException 200 detail) →
      ∀ detail, raised exc ≠ .httpException 200 detail := by
    intro exc failed detail
    cases exc with
    | httpException statusCode other => exact failed detail
    | _ =>
      intro same
      cases same
  have ordinary : ∀ message detail, Exn.other message ≠ .httpException 200 detail := by
    intro message detail same
    cases same
  cases ways with
  | streams promptTokens stream => cases direct.symm.trans stream
  | unreadable exc stream => cases direct.symm.trans stream
  | cancelled exc _ submitted passed => exact ⟨asks, Or.inr ⟨exc, rfl, fails exc submitted⟩⟩
  | refused exc _ submitted =>
    exact ⟨List.forall_mem_append.mpr ⟨asks, handled_names (fails exc submitted)⟩,
      Or.inr ⟨_, rfl, raised_failed (fails exc submitted)⟩⟩
  | malformed answer exc _ submitted malformed =>
    obtain ⟨message, rfl⟩ := ordinary_complete platform request answer exc malformed
    exact ⟨List.forall_mem_append.mpr ⟨asks, handled_names (ordinary message)⟩,
      Or.inr ⟨_, rfl, raised_failed (ordinary message)⟩⟩
  | completed answer completion _ submitted completed accepted =>
    obtain ⟨ip, rfl, names⟩ := succeeds answer submitted
    obtain ⟨served, shown⟩ := complete_names names completed
    exact ⟨List.forall_mem_append.mpr ⟨asks, reported_names served⟩, Or.inl ⟨_, ip, rfl, rfl, shown⟩⟩
  | unaccepted answer completion _ submitted completed exc refused =>
    obtain ⟨message, rfl⟩ := Completion.ordinary_refusal refused
    obtain ⟨ip, rfl, names⟩ := succeeds answer submitted
    obtain ⟨served, shown⟩ := complete_names names completed
    exact ⟨List.forall_mem_append.mpr ⟨asks, List.forall_mem_append.mpr
      ⟨reported_names served, handled_names (ordinary _)⟩⟩, Or.inr ⟨_, rfl, raised_failed (ordinary _)⟩⟩

section Served
variable (orderly : env.Orderly) (passes : env.check.passes = true) (direct : request.stream = false)
  (succeeds : ∀ answer, env.submit = .ok answer → ∃ ip, node = some ip ∧ NamesNode answer ip)
  (fails : ∀ exc, env.submit = .error exc → ∀ detail, exc ≠ .httpException 200 detail)
include orderly passes direct succeeds fails

theorem serve_names (platform : Platform) : ∀ emission ∈ serve platform env request, emission.Names node := by
  obtain ⟨inner, result, ways, ran⟩ := inferred platform request orderly
  obtain ⟨named, ends⟩ := ways.names direct succeeds fails
  have left : ∀ emission ∈ (leave result).emissions, emission.Names node := by
    unfold leave
    split
    · simp [Emission.Names]
    · simp [Emission.Names]
  have shown : ∀ emission ∈ respond platform env request result, emission.Names node := by
    rcases ends with ⟨document, ip, rfl, -, -⟩ | ⟨exc, rfl, -⟩
    · simp [respond, Emission.Names]
    · intro emission among
      have client := respond_error_client platform env request exc emission among
      cases emission with
      | row | requestCount | latency => cases client
      | _ => trivial
  rw [serve, chat_of_passes platform request passes, ran]
  refine List.forall_mem_append.mpr ⟨?_, shown⟩
  exact List.forall_mem_cons.mpr ⟨trivial, List.forall_mem_cons.mpr ⟨trivial, List.forall_mem_cons.mpr
    ⟨trivial, List.forall_mem_append.mpr ⟨named, left⟩⟩⟩⟩

theorem body_names (platform : Platform) (success : .status 200 ∈ serve platform env request) :
    ∃ document ip, .body document ∈ serve platform env request ∧ node = some ip ∧ NamesNode document ip := by
  obtain ⟨inner, result, ways, client⟩ := client_of_passes orderly passes
  have seen : ∀ emission : Emission, emission.isClient = true →
      (emission ∈ serve platform env request ↔ emission ∈ respond platform env request result) := by
    intro emission visible
    have both := congrArg (emission ∈ ·) client
    simpa [List.mem_filter, visible] using both
  rcases (ways.names direct succeeds fails).2 with ⟨document, ip, rfl, served, names⟩ | ⟨exc, rfl, failed⟩
  · refine ⟨document, ip, (seen _ rfl).mpr ?_, served, names⟩
    simp [respond]
  · have told := (seen _ rfl).mp success
    cases exc with
    | httpException statusCode detail =>
      have code : statusCode = 200 := by
        rw [respond, httpExceptionHandler] at told
        split at told
        · split at told
          · simpa [eq_comm] using told
          · simp [serverError] at told
        · simpa [eq_comm] using told
      subst code
      exact absurd rfl (failed detail)
    | _ => simp [respond, Exn.isException, serverError] at told

end Served
end Chat

namespace Process
open Chat
variable {platform : Platform} {text : FloatText} {adminSecret : String} {keyHash : KeyHash}
  {division : TrueDivision} {settings : Settings} {hash : String → Int} {s : Process} {clock : ℚ} {store : RateStore}

/-- Once the call of a direct request is over, the rows and counts of its success, its latencies and its answer all
name the node to which the call was sent last, whatever nodes have failed it before. -/
theorem answers_attributed
    (reached : (machine platform text adminSecret keyHash division settings hash).Reaches (start settings clock store) s)
    {pool : PoolName} {index : Nat} {caller : Caller} {call : Call} (asked : (s.callers pool)[index]? = some caller)
    (found : (s.service.routers pool).calls[index]? = some call)
    (routed : Routed caller.env caller.request (some call)) (orderly : caller.env.Orderly)
    (direct : caller.request.stream = false) :
    (∀ emission ∈ caller.served.emissions, emission.Names (dispatches call.log).getLast?) ∧
    (.status 200 ∈ caller.served.emissions → ∃ document ip, .body document ∈ caller.served.emissions ∧
      (dispatches call.log).getLast? = some ip ∧ NamesNode document ip ∧
        ip ∈ (settings.pool (fun _ => ∅) pool).ips) := by
  have alone := Service.alone_reachable (service_reachable reached) pool
  have among : caller ∈ s.everyone := by
    apply List.mem_append_left
    cases pool with
    | text => exact List.mem_append_left _ (List.mem_of_getElem? asked)
    | multimodal => exact List.mem_append_right _ (List.mem_of_getElem? asked)
  have emissions := ((owned_reachable reached).genuine caller among).emissions
  obtain ⟨used, tries, sleeps, -, -, tally⟩ := Router.within_reachable alone found
  cases routed with
  | streamed starts ending log body => cases direct.symm.trans starts.2.1
  | submitted checked _ log =>
    have succeeds : ∀ answer, caller.env.submit = .ok answer →
        ∃ ip, (dispatches log).getLast? = some ip ∧ NamesNode answer ip := by
      intro answer submitted
      rw [submitted] at found
      exact Router.submit_located alone found
    have fails : ∀ exc, caller.env.submit = .error exc → ∀ detail, exc ≠ .httpException 200 detail := by
      intro exc submitted
      rw [submitted] at found
      exact Router.submit_failed alone found
    rw [emissions]
    refine ⟨serve_names orderly checked direct succeeds fails platform, fun success => ?_⟩
    obtain ⟨document, ip, shown, last, names⟩ := body_names orderly checked direct succeeds fails platform success
    exact ⟨document, ip, shown, last, names, tally.known ip (List.mem_of_getLast? last)⟩

def secondAnswer : Json := .obj [("choices", .arr []), ("node_ip", .str "10.0.0.2"), ("queue_ms", .int 3)]

def attributed : List ProcessEvent :=
  [.service .started, .door (.task (.initDb 1 1 "Zq3vT0aXk9LmPw2sRb7Ud1Ye5Hf8Jc4Ng6Vi0Ot2Qxs")),
    .door (.chat (some ("Bearer " ++ Accounts.sampleKey)) 5 .greeting),
    .door (.enter 0), .door (.tick 1), .door (.execute 0 { Environment.completed with submit := .ok secondAnswer }),
    .asks 0, .service (.resume .text 0 .wake),
    .service (.resume .text 0 (.posted 0 (.error (.transport "connection refused")))),
    .service (.resume .text 0 .wake),
    .service (.resume .text 0 (.posted 3 (.ok ⟨⟨200, ""⟩, some (.obj [("choices", .arr [])]), ""⟩))),
    .service (.resume .text 0 .wake)]

theorem answers_attributed_rerouted : ∃ s caller call,
    (machine .plain .fractions "changeme" Accounts.sampleHash .exact { textNodeIps := "10.0.0.1,10.0.0.2" }
      fun _ => 0).run (start { textNodeIps := "10.0.0.1,10.0.0.2" } 0 fun _ => none) attributed = some s ∧
    (s.callers .text)[0]? = some caller ∧ (s.service.routers .text).calls[0]? = some call ∧
      dispatches call.log = ["10.0.0.1", "10.0.0.2"] ∧
        ∃ document, .body document ∈ caller.served.emissions ∧ NamesNode document "10.0.0.2" := by
  have ran : (machine .plain .fractions "changeme" Accounts.sampleHash .exact
      { textNodeIps := "10.0.0.1,10.0.0.2" } fun _ => 0).run
        (start { textNodeIps := "10.0.0.1,10.0.0.2" } 0 fun _ => none) attributed = some _ := rfl
  have orderly : Environment.Orderly { Environment.completed with check := .passed, submit := .ok secondAnswer } := by
    intro site exc failed
    cases failed
  have named := answers_attributed ⟨_, ran⟩ (rfl : (callers _ .text)[0]? = some _) rfl (.submitted rfl rfl _) orderly rfl
  obtain ⟨document, ip, shown, last, names, -⟩ := named.2 (List.mem_of_getElem? (i := 13) rfl)
  have second : ip = "10.0.0.2" := by
    cases last
    rfl
  exact ⟨_, _, _, ran, rfl, rfl, rfl, document, shown, second ▸ names⟩

end Process
end LlamacppRay.Gateway
