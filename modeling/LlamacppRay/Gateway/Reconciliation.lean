import LlamacppRay.Gateway.ChatStatuses
import LlamacppRay.Gateway.Ledgers
import LlamacppRay.Gateway.Usage

/-! The usage report of a user beside the counter of requests: what the counter has and the report lacks. -/

namespace LlamacppRay.Gateway.Chat
open LlamacppRay.Python

/-! ### Rows and counts -/

def rowsOf (emissions : List Emission) : List RequestLog :=
  emissions.filterMap fun emission => match emission with
    | .row row => some row
    | _ => none

def countsOf (emissions : List Emission) : List CountLabels :=
  emissions.filterMap fun emission => match emission with
    | .requestCount labels => some labels
    | _ => none

theorem rowsOf_append (first second : List Emission) : rowsOf (first ++ second) = rowsOf first ++ rowsOf second :=
  List.filterMap_append

theorem countsOf_append (first second : List Emission) :
    countsOf (first ++ second) = countsOf first ++ countsOf second :=
  List.filterMap_append

theorem perm_append_swap {α : Type*} (first second third fourth : List α) :
    (first ++ second ++ (third ++ fourth)).Perm (first ++ third ++ (second ++ fourth)) := by
  simp only [List.append_assoc]
  exact (List.perm_append_comm_assoc second third fourth).append_left first

def Emission.quiet : Emission → Bool
  | .row _ | .requestCount _ => false
  | _ => true

section Gap
variable (platform : Platform) (env : Environment) (request : Request)

def missing {α : Type} (site : Site) (made : Except Exn α) (statusCode : Int) : List Int :=
  if made.isOk && (env.writes site).isNone then [] else [statusCode]

def unloggedFailure (exc : Exn) : List Int :=
  match exc with
  | .httpException statusCode _ => missing env .httpError (estimatePromptTokens request.messages) statusCode
  | _ => missing env .failure (estimatePromptTokens request.messages) 500

def unloggedDirect : List Int :=
  match env.submit with
  | .error exc => if exc.isException then unloggedFailure env request exc else []
  | .ok answer =>
    match complete platform request answer with
    | .error exc => unloggedFailure env request exc
    | .ok completion =>
      missing env .success (buildSuccessResponsePreview platform completion.result) 200 ++
        match completion.refusal platform with
        | none => []
        | some exc => unloggedFailure env request exc

/-- The statuses that a request is counted with and not logged with. -/
def unlogged : List Int :=
  match env.check with
  | .cancelled => []
  | .rejected exc => missing env .rateLimited (estimatePromptTokens request.messages) exc.statusCode
  | .passed | .unavailable =>
    if request.stream then
      match estimatePromptTokens request.messages with
      | .ok _ => []
      | .error exc => unloggedFailure env request exc
    else unloggedDirect platform env request

end Gap

/-- The rows are the user's, and the counts are theirs and those of the further statuses. -/
def Balanced (user : User) (emissions : List Emission) (further : List Int) : Prop :=
  ∃ written : List Int,
    (rowsOf emissions).map (fun row => (row.userId, row.statusCode)) = written.map (fun code => (user.id, code)) ∧
      ((countsOf emissions).map fun labels => (labels.username, labels.statusCode)).Perm
        ((written ++ further).map fun code => (user.username, toString code))

namespace Balanced
variable {user : User} {first second : List Emission} {further further' : List Int}

theorem append (left : Balanced user first further) (right : Balanced user second further') :
    Balanced user (first ++ second) (further ++ further') := by
  obtain ⟨written, rows, counts⟩ := left
  obtain ⟨written', rows', counts'⟩ := right
  refine ⟨written ++ written', ?_, ?_⟩
  · rw [rowsOf_append, List.map_append, List.map_append, rows, rows']
  · rw [countsOf_append, List.map_append]
    refine (counts.append counts').trans ?_
    rw [← List.map_append]
    exact (perm_append_swap written further written' further').map _

theorem of_quiet (quiet : ∀ emission ∈ first, emission.quiet = true) : Balanced user first [] := by
  have noRow : rowsOf first = [] := by
    refine List.filterMap_eq_nil_iff.mpr fun emission member => ?_
    have silent := quiet emission member
    cases emission with
    | row => cases silent
    | _ => rfl
  have noCount : countsOf first = [] := by
    refine List.filterMap_eq_nil_iff.mpr fun emission member => ?_
    have silent := quiet emission member
    cases emission with
    | requestCount => cases silent
    | _ => rfl
  exact ⟨[], by rw [noRow]; rfl, by rw [noCount]; rfl⟩

theorem of_alike (balanced : Balanced user first further) (rows : rowsOf second = rowsOf first)
    (counts : countsOf second = countsOf first) : Balanced user second further := by
  rw [Balanced, rows, counts]
  exact balanced

theorem around {before after : List Emission} (balanced : Balanced user first further)
    (opening : ∀ emission ∈ before, emission.quiet = true) (closing : ∀ emission ∈ after, emission.quiet = true) :
    Balanced user (before ++ first ++ after) further := by
  simpa using ((of_quiet opening).append balanced).append (of_quiet closing)

end Balanced

section Requests
variable {platform : Platform} {env : Environment} {request : Request}

/-! ### What a request leaves behind -/

theorem countsOf_noted (env : Environment) (site : Site) (row : Except Exn RequestLog) (message : String) :
    countsOf (noted env site row message) = [] := by
  refine List.filterMap_eq_nil_iff.mpr fun emission among => ?_
  rcases mem_noted among with rfl | rfl | ⟨entry, -, rfl⟩
  · rfl
  · rfl
  · rfl

theorem balanced_noted {α : Type} (env : Environment) (site : Site) {row : Except Exn RequestLog} (message : String)
    (statusCode : Int) (streaming nodeIp : String) {made : Except Exn α}
    (mine : ∀ entry, row = .ok entry → entry.userId = request.user.id ∧ entry.statusCode = statusCode)
    (same : row.isOk = made.isOk) :
    Balanced request.user
      (.requestCount (countLabels request statusCode streaming nodeIp) :: noted env site row message)
      (missing env site made statusCode) := by
  have counts : countsOf (.requestCount (countLabels request statusCode streaming nodeIp) ::
      noted env site row message) = [countLabels request statusCode streaming nodeIp] :=
    congrArg (_ :: ·) (countsOf_noted env site row message)
  rw [Balanced, counts, missing, ← same]
  cases row with
  | error exc => exact ⟨[], rfl, .refl _⟩
  | ok entry =>
    obtain ⟨owner, status⟩ := mine entry rfl
    cases write : env.writes site with
    | some exc =>
      refine ⟨[], ?_, .refl _⟩
      simp [noted, write, rowsOf]
    | none =>
      refine ⟨[statusCode], ?_, .refl _⟩
      simp [noted, write, rowsOf, owner, status]

theorem isOk_failureRow (env : Environment) (request : Request) (site : Site) (nodeIp : Json) (statusCode : Int)
    (error : String) :
    (failureRow env request site nodeIp statusCode error).isOk = (estimatePromptTokens request.messages).isOk := by
  cases estimated : estimatePromptTokens request.messages with
  | error exc =>
    rw [failureRow_of_unreadable env estimated]
    rfl
  | ok promptTokens =>
    obtain ⟨row, shown, -⟩ := failureRow_of_estimate env estimated site nodeIp statusCode error
    rw [shown]
    rfl

theorem failureRow_fields {site : Site} {nodeIp : Json} {statusCode : Int} {error : String} {entry : RequestLog}
    (shown : failureRow env request site nodeIp statusCode error = .ok entry) :
    entry.userId = request.user.id ∧ entry.statusCode = statusCode := by
  obtain ⟨promptTokens, -, rest⟩ := ok_of_bind shown
  obtain ⟨preview, -, last⟩ := ok_of_bind rest
  cases last
  exact ⟨rfl, rfl⟩

theorem balanced_handled (platform : Platform) (env : Environment) (request : Request) (exc : Exn) :
    Balanced request.user (handled platform env request exc) (unloggedFailure env request exc) := by
  cases exc with
  | httpException statusCode detail =>
    have opened : Balanced request.user (if statusCode = 503 then [.queueRejected request.requestType] else []) [] := by
      apply Balanced.of_quiet
      split
      · simp [Emission.quiet]
      · simp
    exact opened.append
      (balanced_noted env _ _ statusCode "false" "unknown" (fun _ => failureRow_fields) (isOk_failureRow ..))
  | _ => exact balanced_noted env _ _ 500 "false" "unknown" (fun _ => failureRow_fields) (isOk_failureRow ..)

theorem balanced_turnedAway (env : Environment) (request : Request) (exc : HTTPException) :
    Balanced request.user (turnedAway env request exc)
      (missing env .rateLimited (estimatePromptTokens request.messages) exc.statusCode) := by
  have announced : Balanced request.user [.rateLimited request.requestType] [] := .of_quiet (by simp [Emission.quiet])
  exact announced.append
    (balanced_noted env _ _ exc.statusCode _ "unknown" (fun _ => failureRow_fields) (isOk_failureRow ..))

theorem isOk_successRow (env : Environment) {answer : Json} {completion : Completion}
    (completed : complete platform request answer = .ok completion) :
    (successRow platform env request completion).isOk =
      (buildSuccessResponsePreview platform completion.result).isOk := by
  obtain ⟨promptTokens, estimated⟩ := estimate_of_complete completed
  obtain ⟨preview, shown⟩ := preview_of_estimate estimated false
  rw [successRow, shown]
  cases buildSuccessResponsePreview platform completion.result with
  | ok => rfl
  | error => rfl

theorem successRow_fields {completion : Completion} {entry : RequestLog}
    (shown : successRow platform env request completion = .ok entry) :
    entry.userId = request.user.id ∧ entry.statusCode = 200 := by
  obtain ⟨preview, -, rest⟩ := ok_of_bind shown
  obtain ⟨response, -, last⟩ := ok_of_bind rest
  cases last
  exact ⟨rfl, rfl⟩

theorem balanced_reported (env : Environment) {answer : Json} {completion : Completion}
    (completed : complete platform request answer = .ok completion) :
    Balanced request.user (reported platform env request completion)
      (missing env .success (buildSuccessResponsePreview platform completion.result) 200) := by
  have counted := balanced_noted env .success "Failed to log successful inference" 200 "false"
    (nodeLabel platform completion.nodeIp) (fun _ => successRow_fields) (isOk_successRow env completed)
  have after : Balanced request.user
      (.latency (latencyLabels request (nodeLabel platform completion.nodeIp)) (env.latencyMs .success) ::
        if Addable completion.promptTokens then .promptTokens (tokenLabels request) completion.promptTokens ::
          if Addable completion.completionTokens then
            [.completionTokens (tokenLabels request) completion.completionTokens]
          else []
        else []) [] := by
    apply Balanced.of_quiet
    split
    · split
      · simp [Emission.quiet]
      · simp [Emission.quiet]
    · simp [Emission.quiet]
  have whole := counted.append after
  rw [List.append_nil] at whole
  have silent := countsOf_noted env .success (successRow platform env request completion)
    "Failed to log successful inference"
  rw [countsOf] at silent
  refine whole.of_alike ?_ ?_
  · simp [reported, rowsOf]
  · simp [reported, countsOf, List.filterMap_append, silent]

theorem Inferred.balanced {inner : List Emission} {result : Except Exn Answer}
    (passes : env.check.passes = true) (ways : Inferred platform env request inner result) :
    Balanced request.user inner (unlogged platform env request) := by
  have within : unlogged platform env request = if request.stream then
      match estimatePromptTokens request.messages with
      | .ok _ => []
      | .error exc => unloggedFailure env request exc
    else unloggedDirect platform env request := by
    unfold unlogged
    cases checked : env.check with
    | passed => rfl
    | unavailable => rfl
    | cancelled | rejected =>
      rw [checked] at passes
      cases passes
  have begun : Balanced request.user (started request) [] := .of_quiet (by simp [started, Emission.quiet])
  rw [within]
  cases ways with
  | streams promptTokens stream estimated =>
    rw [if_pos stream, estimated]
    exact .of_quiet (by simp)
  | unreadable exc stream estimated =>
    rw [if_pos stream, estimated]
    exact balanced_handled platform env request exc
  | cancelled exc direct submitted passed =>
    rw [if_neg (by simp [direct]), unloggedDirect, submitted]
    simpa [passed] using begun
  | refused exc direct submitted ordinary =>
    rw [if_neg (by simp [direct]), unloggedDirect, submitted]
    simpa [ordinary] using begun.append (balanced_handled platform env request exc)
  | malformed answer exc direct submitted completed =>
    rw [if_neg (by simp [direct]), unloggedDirect, submitted]
    simpa [completed] using begun.append (balanced_handled platform env request exc)
  | completed answer completion direct submitted completed accepted =>
    rw [if_neg (by simp [direct]), unloggedDirect, submitted]
    simpa [completed, Completion.refusal_eq_none.mpr accepted] using begun.append (balanced_reported env completed)
  | unaccepted answer completion direct submitted completed exc refused =>
    rw [if_neg (by simp [direct]), unloggedDirect, submitted]
    simpa [completed, refused] using begun.append
      ((balanced_reported env completed).append (balanced_handled platform env request exc))

/-! ### The response -/

theorem streamRow_fields {promptTokens : Int} {error : Option Exn} {entry : RequestLog}
    (shown : streamRow platform env request promptTokens error = .ok entry) :
    entry.userId = request.user.id ∧ entry.statusCode = if error.isSome then 500 else 200 := by
  obtain ⟨preview, -, last⟩ := ok_of_bind shown
  cases last
  exact ⟨rfl, rfl⟩

/-- A stream is counted where its row is written. -/
theorem balanced_settleStream (platform : Platform) (env : Environment) {promptTokens : Int}
    (estimated : estimatePromptTokens request.messages = .ok promptTokens) (error : Option Exn) :
    Balanced request.user (settleStream platform env request promptTokens error).emissions [] := by
  obtain ⟨row, shown⟩ := streamRow_of_estimate platform env estimated error
  obtain ⟨owner, status⟩ := streamRow_fields shown
  have announced : Balanced request.user
      (if error.any isQueueRejection then [.queueRejected request.requestType] else []) [] := by
    apply Balanced.of_quiet
    split
    · simp [Emission.quiet]
    · simp
  cases write : env.writes .streamed with
  | some exc =>
    rw [settle_of_failed write shown]
    exact announced.append (.of_quiet (by simp [Emission.quiet]))
  | none =>
    rw [settle_of_written write shown (Request.addable_estimate estimated)]
    refine announced.append ⟨[row.statusCode], ?_, ?_⟩
    · simp [rowsOf, owner]
    · simp [countsOf, countLabels, status]

theorem quiet_of_relayed {emission : Emission} (relayed : Relayed emission) : emission.quiet = true := by
  cases emission with
  | row | requestCount => cases relayed
  | _ => rfl

theorem balanced_eventStream (platform : Platform) (env : Environment) {promptTokens : Int}
    (estimated : estimatePromptTokens request.messages = .ok promptTokens) (chunks : List String)
    (ending : Except Exn Unit) :
    Balanced request.user (eventStream platform env request promptTokens chunks ending).emissions [] := by
  set body : Handling Unit := do
    Program.emit (.asked (affinityKey request) (isMultimodal request))
    relay platform chunks ending with named
  have looped : Balanced request.user body.emissions [] := by
    apply Balanced.of_quiet
    rw [named, Program.emit_bind]
    exact List.forall_mem_cons.mpr
      ⟨rfl, fun emission listed => quiet_of_relayed (relay_emits chunks ending emission listed)⟩
  exact looped.append (balanced_settleStream platform env estimated (streamError body.result))

theorem balanced_respond (platform : Platform) (env : Environment) (request : Request) (result : Except Exn Answer)
    (readable : ∀ promptTokens, result = .ok (.stream promptTokens) →
      estimatePromptTokens request.messages = .ok promptTokens) :
    Balanced request.user (respond platform env request result) [] := by
  cases result with
  | error exc =>
    refine .of_quiet fun emission among => ?_
    have client := respond_error_client platform env request exc emission among
    cases emission with
    | row | requestCount => cases client
    | _ => rfl
  | ok answer =>
    cases answer with
    | json => exact .of_quiet (by simp [respond, Emission.quiet])
    | stream promptTokens =>
      have estimated := readable promptTokens rfl
      unfold respond
      cases env.stream with
      | none => exact .of_quiet (by simp [Emission.quiet])
      | some run =>
        obtain ⟨chunks, ending⟩ := run
        exact (balanced_eventStream platform env estimated chunks ending).around (by simp [Emission.quiet])
          (by simp [Emission.quiet])

theorem balanced_serve (platform : Platform) (request : Request) (orderly : env.Orderly) :
    Balanced request.user (serve platform env request) (unlogged platform env request) := by
  obtain ⟨emissions, result, ways, ran⟩ := visited platform request orderly
  have response : Balanced request.user (respond platform env request result) [] := by
    apply balanced_respond
    rintro promptTokens rfl
    exact ways.streaming.2.2
  have handled : Balanced request.user emissions (unlogged platform env request) := by
    cases ways with
    | cancelled checked =>
      rw [unlogged, checked]
      exact .of_quiet (by simp [Emission.quiet])
    | rejected exc checked =>
      rw [unlogged, checked]
      have announced : Balanced request.user [.suspended] [] := .of_quiet (by simp [Emission.quiet])
      exact announced.append (balanced_turnedAway env request exc)
    | admitted inner result passes ways =>
      have left : ∀ emission ∈ (leave result).emissions, emission.quiet = true := by
        unfold leave
        split
        · simp [Emission.quiet]
        · simp [Emission.quiet]
      have entered : ∀ emission ∈ [Emission.suspended, .checked, .activeInc], emission.quiet = true := by
        simp [Emission.quiet]
      exact (ways.balanced passes).around entered left
  rw [serve, ran]
  simpa using handled.append response

end Requests

/-! ### Many requests -/

structure Stored (row : RequestLog) (entry : LogEntry) : Prop where
  userId : entry.userId = some row.userId
  nodeIp : row.nodeIp = (entry.nodeIp.map Json.str).getD .null
  promptTokens : entry.promptTokens = row.promptTokens
  completionTokens : entry.completionTokens = row.completionTokens
  latencyMs : entry.latencyMs = row.latencyMs
  statusCode : entry.statusCode = row.statusCode
  streaming : entry.streaming = row.streaming

def countedOf (username : String) (emissions : List Emission) : List CountLabels :=
  (countsOf emissions).filter fun labels => labels.username = username

def unloggedOf (platform : Platform) (username : String) (calls : List (Environment × Request)) : List Int :=
  (calls.filter fun call => call.2.user.username = username).flatMap fun call => unlogged platform call.1 call.2

def Reconciled (user : User) (emissions : List Emission) (further : List Int) : Prop :=
  ((countedOf user.username emissions).map CountLabels.statusCode).Perm
    ((((rowsOf emissions).filter fun row => row.userId = user.id).map RequestLog.statusCode ++ further).map toString)

section Runs
variable {platform : Platform} {user : User} {first second : List Emission} {further further' : List Int}

theorem Reconciled.append (left : Reconciled user first further) (right : Reconciled user second further') :
    Reconciled user (first ++ second) (further ++ further') := by
  unfold Reconciled countedOf
  rw [countsOf_append, rowsOf_append, List.filter_append, List.filter_append, List.map_append]
  refine (List.Perm.append left right).trans ?_
  rw [← List.map_append, List.map_append (f := RequestLog.statusCode)]
  exact (perm_append_swap _ further _ further').map _

theorem Reconciled.perm (reconciled : Reconciled user first further) (same : second.Perm first) :
    Reconciled user second further := by
  have counts : (countedOf user.username second).Perm (countedOf user.username first) := (same.filterMap _).filter _
  have rows : (rowsOf second).Perm (rowsOf first) := same.filterMap _
  refine (counts.map _).trans (reconciled.trans ?_)
  exact ((((rows.filter _).map _).append_right further).map _).symm

theorem Balanced.reconciled {other : User} (balanced : Balanced other first further)
    (same : other.id = user.id ↔ other.username = user.username) :
    Reconciled user first (if other.username = user.username then further else []) := by
  obtain ⟨written, rows, counts⟩ := balanced
  have owner : ∀ row ∈ rowsOf first, row.userId = other.id := by
    intro row listed
    have among := List.mem_map_of_mem (f := fun row : RequestLog => (row.userId, row.statusCode)) listed
    rw [rows] at among
    obtain ⟨code, -, pair⟩ := List.mem_map.mp among
    exact (congrArg Prod.fst pair).symm
  have named : ∀ labels ∈ countsOf first, labels.username = other.username := by
    intro labels listed
    have among := List.mem_map_of_mem (f := fun labels : CountLabels => (labels.username, labels.statusCode)) listed
    obtain ⟨code, -, pair⟩ := List.mem_map.mp (counts.mem_iff.mp among)
    exact (congrArg Prod.fst pair).symm
  unfold Reconciled countedOf
  by_cases theirs : other.username = user.username
  · have rowsKept : (rowsOf first).filter (fun row => row.userId = user.id) = rowsOf first :=
      List.filter_eq_self.mpr fun row listed => decide_eq_true ((owner row listed).trans (same.mpr theirs))
    have countsKept : (countsOf first).filter (fun labels => labels.username = user.username) = countsOf first :=
      List.filter_eq_self.mpr fun labels listed => decide_eq_true ((named labels listed).trans theirs)
    have statuses := congrArg (List.map Prod.snd) rows
    have codes := counts.map Prod.snd
    simp only [List.map_map, Function.comp_def, List.map_id'] at statuses codes
    rw [if_pos theirs, rowsKept, countsKept, statuses]
    exact codes
  · have noRow : (rowsOf first).filter (fun row => row.userId = user.id) = [] := by
      refine List.filter_eq_nil_iff.mpr fun row listed => ?_
      rw [decide_eq_true_eq, owner row listed, same]
      exact theirs
    have noCount : (countsOf first).filter (fun labels => labels.username = user.username) = [] := by
      refine List.filter_eq_nil_iff.mpr fun labels listed => ?_
      rw [decide_eq_true_eq, named labels listed]
      exact theirs
    rw [if_neg theirs, noRow, noCount]
    exact .refl _

theorem reconciled_calls (platform : Platform) {calls : List (Environment × Request)}
    (orderly : ∀ call ∈ calls, call.1.Orderly)
    (same : ∀ call ∈ calls, call.2.user.id = user.id ↔ call.2.user.username = user.username) :
    Reconciled user (calls.flatMap fun call => serve platform call.1 call.2)
      (unloggedOf platform user.username calls) := by
  induction calls with
  | nil => exact .refl _
  | cons call rest ih =>
    have here := (balanced_serve platform call.2 (orderly call List.mem_cons_self)).reconciled
      (same call List.mem_cons_self)
    have later := ih (fun other listed => orderly other (List.mem_cons_of_mem call listed))
      fun other listed => same other (List.mem_cons_of_mem call listed)
    have whole := here.append later
    rw [List.flatMap_cons]
    convert whole using 1
    unfold unloggedOf
    by_cases theirs : call.2.user.username = user.username
    · simp [theirs]
    · simp [theirs]

theorem getUserByUsername_of_mem {tables : Tables} (member : user ∈ tables.users) :
    getUserByUsername tables user.username = .ok user := by
  have only : ∀ row : User, decide (row.username = user.username) = true → row.username = user.username :=
    fun _ => of_decide_eq_true
  rcases filter_unique tables.usernames only with missing | ⟨row, present, same, rows⟩
  · have found : user ∈ tables.users.filter fun row => row.username = user.username :=
      List.mem_filter.mpr ⟨member, decide_eq_true rfl⟩
    rw [missing] at found
    cases found
  · rw [getUserByUsername, rows, eq_of_unique tables.usernames present member (only row same)]
    rfl

theorem countP_of_forall₂ {α β : Type*} {related : α → β → Prop} {test : α → Bool} {test' : β → Bool}
    (agree : ∀ a b, related a b → test a = test' b) {list : List α} {list' : List β}
    (paired : List.Forall₂ related list list') : list.countP test = list'.countP test' := by
  induction paired with
  | nil => rfl
  | cons first _ ih => rw [List.countP_cons, List.countP_cons, ih, agree _ _ first]

theorem usage_of_stored (division : TrueDivision) {tables : Tables} (member : user ∈ tables.users)
    {rows : List RequestLog} {logs : List LogEntry} (stored : List.Forall₂ Stored rows logs) :
    ∃ report, userUsage division tables logs user.username = .ok report ∧
      report.totalRequests = (rows.filter fun row => row.userId = user.id).length ∧
      report.successfulRequests = (rows.filter fun row => row.userId = user.id).countP fun row => row.statusCode = 200 := by
  have reports := reports_usageOf division user.username (logs.filter fun log => log.userId = some user.id)
  refine ⟨_, by rw [userUsage, getUserByUsername_of_mem member]; rfl, ?_, ?_⟩
  · rw [reports.total, ← List.countP_eq_length_filter, ← List.countP_eq_length_filter]
    refine (countP_of_forall₂ ?_ stored).symm
    intro row entry same
    simp only [same.userId, Option.some.injEq]
  · rw [reports.successful, List.countP_filter, List.countP_filter]
    refine (countP_of_forall₂ ?_ stored).symm
    intro row entry same
    simp only [same.userId, Option.some.injEq, same.statusCode]

theorem toString_eq_success (code : Int) : toString code = "200" ↔ code = 200 :=
  ⟨fun same => Int.repr_injective same, fun same => by rw [same]; rfl⟩

theorem Reconciled.counts {rows : List RequestLog} (reconciled : Reconciled user first further)
    (written : rows.Perm (rowsOf first)) :
    (countedOf user.username first).length = (rows.filter fun row => row.userId = user.id).length + further.length ∧
      ((countedOf user.username first).countP fun labels => labels.statusCode = "200") =
        ((rows.filter fun row => row.userId = user.id).countP fun row => row.statusCode = 200) + further.count 200 := by
  have mine := written.filter fun row => row.userId = user.id
  constructor
  · have lengths := reconciled.length_eq
    simpa [mine.length_eq] using lengths
  · have counted := reconciled.countP_eq fun code => code = "200"
    have succeeds : ((fun code : String => decide (code = "200")) ∘ fun code : Int => toString code) =
        fun code => decide (code = 200) := by
      funext code
      exact decide_eq_decide.mpr (toString_eq_success code)
    rw [List.countP_map, List.countP_map, succeeds, List.countP_append, List.countP_map] at counted
    calc ((countedOf user.username first).countP fun labels => labels.statusCode = "200")
        = _ := counted
      _ = ((rows.filter fun row => row.userId = user.id).countP fun row => row.statusCode = 200) + further.count 200 := by
        rw [mine.countP_eq]
        rfl

/-- Whatever the requests run into, and however they interleave: the counter has of a user what the report has, and
the requests that it counts although their row could not be made or was not written. -/
theorem report_reconciled (division : TrueDivision) (platform : Platform) (tables : Tables)
    (calls : List (Environment × Request)) (trace : List Emission) (rows : List RequestLog) (logs : List LogEntry)
    (user : User) (member : user ∈ tables.users) (orderly : ∀ call ∈ calls, call.1.Orderly)
    (known : ∀ call ∈ calls, ∃ row ∈ tables.users, row.id = call.2.user.id ∧ row.username = call.2.user.username)
    (interleaved : trace.Perm (calls.flatMap fun call => serve platform call.1 call.2))
    (written : rows.Perm (rowsOf trace)) (stored : List.Forall₂ Stored rows logs) :
    ∃ report, userUsage division tables logs user.username = .ok report ∧
      (countedOf user.username trace).length =
        report.totalRequests + (unloggedOf platform user.username calls).length ∧
      ((countedOf user.username trace).countP fun labels => labels.statusCode = "200") =
        report.successfulRequests + (unloggedOf platform user.username calls).count 200 := by
  have same : ∀ call ∈ calls, call.2.user.id = user.id ↔ call.2.user.username = user.username := by
    intro call listed
    obtain ⟨row, present, id, username⟩ := known call listed
    rw [← id, ← username]
    constructor
    · intro alike
      rw [eq_of_unique tables.user_ids present member alike]
    · intro alike
      rw [eq_of_unique tables.usernames present member alike]
  have reconciled := (reconciled_calls platform orderly same).perm interleaved
  obtain ⟨report, reported, total, successful⟩ := usage_of_stored division member stored
  refine ⟨report, reported, ?_⟩
  rw [total, successful]
  exact reconciled.counts written

end Runs

/-! ### An outage between two requests -/

def twoRequests : List (Environment × Request) :=
  [(.answering 3 1, .greeting false),
    ({ Environment.answering 3 1 with writes := fun _ => some (.other "connection refused") }, .greeting false)]

theorem known_twoRequests : ∀ call ∈ twoRequests, ∃ row ∈ Tables.twoUsers.users,
    row.id = call.2.user.id ∧ row.username = call.2.user.username := by
  intro call listed
  have same : call.2 = .greeting false := by
    rcases List.mem_pair.mp listed with rfl | rfl
    · rfl
    · rfl
  rw [same]
  exact ⟨_, List.mem_cons_of_mem _ (List.mem_singleton_self _), rfl, rfl⟩

theorem orderly_twoRequests : ∀ call ∈ twoRequests, call.1.Orderly := by
  intro call listed site exc raised
  rcases List.mem_pair.mp listed with rfl | rfl
  · cases raised
  · cases raised
    rfl

/-- The report has one request of two. -/
theorem report_reconciled_two :
    ∃ report, userUsage .exact .twoUsers [⟨some 7, some "10.0.0.1", 3, 1, 12, 200, false, 60⟩] "ana" = .ok report ∧
      (countedOf "ana" (twoRequests.flatMap fun call => serve .plain call.1 call.2)).length =
        report.totalRequests + 1 ∧
      ((countedOf "ana" (twoRequests.flatMap fun call => serve .plain call.1 call.2)).countP
        fun labels => labels.statusCode = "200") = report.successfulRequests + 1 := by
  have gap : unloggedOf .plain "ana" twoRequests = [200] := by decide +kernel
  have reconciled := report_reconciled .exact .plain .twoUsers twoRequests
    (twoRequests.flatMap fun call => serve .plain call.1 call.2)
    (rowsOf (twoRequests.flatMap fun call => serve .plain call.1 call.2))
    [⟨some 7, some "10.0.0.1", 3, 1, 12, 200, false, 60⟩] (Request.greeting false).user
    (List.mem_cons_of_mem _ (List.mem_singleton_self _)) orderly_twoRequests known_twoRequests (.refl _) (.refl _)
    (.cons ⟨rfl, rfl, rfl, rfl, rfl, rfl, rfl⟩ .nil)
  have named : (Request.greeting false).user.username = "ana" := rfl
  rw [named, gap] at reconciled
  exact reconciled

end LlamacppRay.Gateway.Chat
